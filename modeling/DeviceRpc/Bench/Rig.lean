import DeviceRpc.Bytes

/-!
# Rigs

A rig is a service put together by hand to try the dispatcher out: a name, a
protocol, and rows that say what each command does with the object it reaches.
-/

namespace DeviceRpc

/-- What a command of a rig does. -/
inductive RigHandler where
  | nothing
  /-- The object's reading becomes the first number of the carrier. -/
  | reading
  | fail (code : UInt16)
  | payload (bs : Bytes)
  /-- The object's reading and a payload, and then the code. -/
  | payloadThenFail (bs : Bytes) (code : UInt16)
  /-- The name in the request becomes the payload, its length the second number. -/
  | readName
  | writeName (name : String)
  deriving DecidableEq, Repr

/-- A row of a rig. -/
inductive RigRow where
  | lookup (command : UInt16)
  | on (command : UInt16) (handler : RigHandler)
  deriving DecidableEq, Repr

/-- A service put together by hand. -/
structure Rig where
  name : String
  protocol : UInt16
  rows : List RigRow
  deriving DecidableEq, Repr

/-- The services that a node can offer. -/
inductive ServiceKind where
  | pdu
  | rig (rig : Rig)
  deriving DecidableEq, Repr

/-- The name that metrics show. -/
def ServiceKind.name : ServiceKind → String
  | pdu => "pdu"
  | rig r => r.name

end DeviceRpc
