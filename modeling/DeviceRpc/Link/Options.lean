/-!
# Link options

How long connecting and a single transfer may take, in milliseconds, and how much
payload a packet may announce. Without a time there is no limit.
-/

namespace DeviceRpc

/-- The limits of one connection. -/
structure LinkOptions where
  connectTimeout : Option Nat := none
  ioTimeout : Option Nat := none
  maxPayload : Nat := 16777216
  deriving DecidableEq, Repr

instance : Inhabited LinkOptions := ⟨{}⟩

/-- A time that zero switches off. -/
def LinkOptions.timeout (ms : Nat) : Option Nat := if ms = 0 then none else some ms

end DeviceRpc
