import DeviceRpc.Packet.Name

/-!
# Filling packets

A filling names the parts of a packet to write and leaves the others as they are.
The parts are written in a fixed order, so the numbers of the carrier go over an
inline name; a name or a payload that does not fit ends the filling, and what was
written before stays.
-/

namespace DeviceRpc

/-- The parts of a packet to write. -/
structure Filling where
  protocol : Option UInt16 := none
  command : Option UInt16 := none
  index : Option UInt16 := none
  option : Option UInt16 := none
  channel : Option UInt16 := none
  errorCode : Option UInt16 := none
  name : Option String := none
  first : Option Binary64 := none
  second : Option Binary64 := none
  limit : Option UInt32 := none
  payload : Option Bytes := none

namespace Filling

/-- The packet with the header scalars written. -/
def scalars (f : Filling) (p : Packet) : Packet :=
  { p with
    protocol := f.protocol.getD p.protocol
    command := f.command.getD p.command
    index := f.index.getD p.index
    option := f.option.getD p.option
    channel := f.channel.getD p.channel
    errorCode := f.errorCode.getD p.errorCode }

/-- The packet with a name written, if there is one. -/
def named (f : Filling) (p : Packet) : Except Failure Packet :=
  match f.name with
  | some name => p.setName name
  | none => .ok p

/-- The packet with the numbers of the carrier written. -/
def numbers (f : Filling) (p : Packet) : Packet :=
  let p := match f.first with
    | some x => p.setF64 .first x
    | none => p
  let p := match f.second with
    | some x => p.setF64 .second x
    | none => p
  match f.limit with
    | some n => p.setLimit n
    | none => p

/-- The packet with a payload, if there is one. -/
def loaded (f : Filling) (p : Packet) : Except Failure Packet :=
  match f.payload with
  | some bs => p.setPayload bs
  | none => .ok p

/-- The packet as far as it could be filled, and why it could not be. -/
def apply (f : Filling) (p : Packet) : Packet × Option Failure :=
  let p := f.scalars p
  match f.named p with
  | .error e => (p, some e)
  | .ok p =>
    let p := f.numbers p
    match f.loaded p with
    | .error e => (p, some e)
    | .ok p => (p, none)

end Filling

end DeviceRpc
