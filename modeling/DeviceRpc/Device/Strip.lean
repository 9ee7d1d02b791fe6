import DeviceRpc.Device.Command
import DeviceRpc.ErrorCode

/-!
# Outlet strips

The simulated power-distribution unit: named outlets, each with or without power,
and a fault that its health check reports. Only switching changes it.
-/

namespace DeviceRpc

/-- A strip of outlets. -/
structure Strip where
  /-- The outlets by channel: their names and whether they have power. -/
  outlets : List (String × Bool)
  /-- What the health check reports, if anything. -/
  fault : Option ErrorCode := none
  deriving DecidableEq, Repr

namespace Strip

/-- The voltage of every outlet. -/
def nominalVoltage : Binary64 := ⟨0x406b800000000000⟩

/-- The current of an outlet with power. -/
def outletLoad : Binary64 := ⟨0x3fe0000000000000⟩

/-- A strip without power. -/
def ofNames (names : List String) : Strip := ⟨names.map (·, false), none⟩

/-- The place of a channel among the outlets. -/
def place? (s : Strip) (channel : UInt16) : Except ErrorCode Nat :=
  if channel = 0 ∨ s.outlets.length < channel.toNat then .error .invalidArgument
  else .ok (channel.toNat - 1)

/-- Whether the outlet at a place has power. -/
def isOn (s : Strip) (place : Nat) : Bool := s.outlets[place]?.any Prod.snd

/-- The strip with the outlet at a place switched. -/
def switch (on : Bool) (place : Nat) (s : Strip) : Strip :=
  { s with outlets := s.outlets.modify place fun (name, _) => (name, on) }

/-- One byte for each outlet: one with power, zero without. -/
def status (s : Strip) : Bytes := s.outlets.map fun (_, on) => if on then 1 else 0

/-- The channel of the first outlet with a name. -/
def channelOf (name : String) (s : Strip) : Except ErrorCode UInt16 :=
  match s.outlets.findIdx? (·.1 = name) with
  | some place =>
    if place + 1 < 65536 then .ok (UInt16.ofNat (place + 1)) else .error .notFound
  | none => .error .notFound

/-- Carries out a command. -/
def perform (s : Strip) : (c : DeviceCommand) → Strip × Except ErrorCode c.Reply
  | .switch on channel =>
    match s.place? channel with
    | .ok place => (s.switch on place, .ok ())
    | .error e => (s, .error e)
  | .voltage channel => (s, (fun _ => nominalVoltage) <$> s.place? channel)
  | .current channel =>
    (s, (fun place => if s.isOn place then outletLoad else .zero) <$> s.place? channel)
  | .status => (s, .ok s.status)
  | .channelOf name => (s, s.channelOf name)
  | .probe _ =>
    match s.fault with
    | some code => (s, .error code)
    | none => (s, .ok ())

end Strip

end DeviceRpc
