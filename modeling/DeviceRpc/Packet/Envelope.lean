import DeviceRpc.Packet.Access
import DeviceRpc.Packet.Frame

/-!
# Writing into an envelope

A packet is written into where it stands, step by step. An update can be refused on the way, and
what it leaves is then what the steps before left; `Packet.set`, `Packet.setName` and their like
tell only what comes of an update that is not refused. An envelope that has to grow asks for memory,
which is granted or not as its surroundings have it (`Memory`).
-/

namespace DeviceRpc

/-- Whether memory for so many trailing bytes is granted. -/
abbrev Memory := Nat → Bool

/-- Memory for every size that an envelope can reach. -/
def Memory.ample : Memory := fun size => decide (size < Packet.memoryLimit)

namespace Packet

/-- More payload than the length in a header can tell. -/
def payloadTooLong (n : Nat) : Failure :=
  .invalidArgument ("payload of " ++ toString n ++ " bytes exceeds u32")

/-- Too few bytes for a header. -/
def headerTooShort (n : Nat) : Failure :=
  .decode ("header needs " ++ toString headerSize ++ " bytes, got " ++ toString n)

end Packet

/-- Steps on a packet where it stands, between which they may be refused. -/
abbrev Envelope := ReaderT Memory (ExceptT Failure (StateM Packet))

namespace Envelope

/-- What the steps come to on a packet, and what they leave of it. -/
def on {α : Type} (steps : Envelope α) (memory : Memory) (p : Packet) : Except Failure α × Packet :=
  (steps.run memory).run.run p

/-- Makes room for at least `size` trailing bytes, the new ones zero. -/
def grow (size : Nat) : Envelope Unit := do
  if size ≤ (← get).capacity then return
  if (← read) size then modify fun p => { p with trailing := Bytes.grow size p.trailing }
  else throw (.outOfMemory size)

/-- Says how many trailing bytes are in use, with room for them. -/
def setLength (n : UInt32) : Envelope Unit := do
  grow n.toNat
  modify ({ · with length := n })

/-- Writes over the trailing bytes from `off` on. Behind the envelope there is nothing to write on,
so what does not fit is not written. -/
def poke (off : Nat) (bs : Bytes) : Envelope Unit := do
  if off + bs.length ≤ (← get).capacity then modify (·.poke off bs)

/-- Writes a payload, with room for it. -/
def setPayload (bs : Bytes) : Envelope Unit := do
  if UInt32.size ≤ bs.length then throw (Packet.payloadTooLong bs.length)
  grow bs.length
  modify (·.poke 0 bs)
  modify ({ · with length := UInt32.ofNat bs.length })

/-- Writes a text into the carrier. -/
def setText (s : String) : Envelope Unit := do
  let bs := Utf8.encode s
  if carrierSize ≤ bs.length then throw (Packet.textTooLong bs.length)
  if bs.contains 0 then throw Packet.textHasZero
  modify ({ · with carrier := .ofBytes bs })

/-- Writes a name, into the carrier if it is short and else as the payload. -/
def setName (s : String) : Envelope Unit := do
  let bs := Utf8.encode s
  if bs.length < carrierSize then
    setText s
    modify Packet.clearPayload
  else setPayload (bs ++ [0])

/-- Writes a field. -/
def set (field : Field) (value : Value) : Envelope Unit := do
  if value.kind ≠ field.kind then throw (Packet.mismatch field field.kind value.kind)
  match field, value with
  | .protocol, .u16 v => modify (Packet.setScalar .protocol v)
  | .index, .u16 v => modify (Packet.setScalar .index v)
  | .command, .u16 v => modify (Packet.setScalar .command v)
  | .option, .u16 v => modify (Packet.setScalar .option v)
  | .channel, .u16 v => modify (Packet.setScalar .channel v)
  | .errorCode, .u16 v => modify (Packet.setScalar .errorCode v)
  | .length, .u32 n => setLength n
  | .text, .text s => setText s
  | .buffer, .bytes bs => setPayload bs
  | .size, _ => throw Packet.sizeIsReadOnly
  | field, value =>
    match field.slot? with
    | some s => modify (Packet.writeSlot s value.toNat)
    | none => throw (Packet.mismatch field field.kind value.kind)

/-- Reads a header over the packet's own. -/
def decodeHeader (bs : Bytes) : Envelope Unit := do
  if bs.length < headerSize then throw (Packet.headerTooShort bs.length)
  modify (Packet.readHeader bs)

end Envelope

/-- An update of an envelope. -/
inductive Update where
  | set (field : Field) (value : Value)
  | setScalar (s : Scalar) (v : UInt16)
  | setF64 (h : Half) (x : Binary64)
  | setLimit (n : UInt32)
  | setText (s : String)
  | setName (s : String)
  | setLength (n : UInt32)
  | setPayload (bs : Bytes)
  | clearPayload
  | grow (size : Nat)
  | poke (off : Nat) (bs : Bytes)
  | decodeHeader (bs : Bytes)

namespace Update

/-- The steps of an update. -/
def steps : Update → Envelope Unit
  | set field value => Envelope.set field value
  | setScalar s v => modify (Packet.setScalar s v)
  | setF64 h x => modify (Packet.setF64 h x)
  | setLimit n => modify (Packet.setLimit n)
  | setText s => Envelope.setText s
  | setName s => Envelope.setName s
  | setLength n => Envelope.setLength n
  | setPayload bs => Envelope.setPayload bs
  | clearPayload => modify Packet.clearPayload
  | grow size => Envelope.grow size
  | poke off bs => Envelope.poke off bs
  | decodeHeader bs => Envelope.decodeHeader bs

/-- What an update comes to, and the packet that it leaves. -/
def perform (u : Update) (memory : Memory) (p : Packet) : Except Failure Unit × Packet :=
  u.steps.on memory p

end Update

end DeviceRpc
