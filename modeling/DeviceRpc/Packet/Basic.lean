import DeviceRpc.Binary64.Basic
import DeviceRpc.Failure
import DeviceRpc.Packet.Field

/-!
# Packets

A packet is six scalars, a length, the carrier and a run of trailing bytes, of
which the first `length` are the payload. The trailing bytes are kept from one
use to the next, so their number, the capacity, only grows. A length read from a
header may exceed the capacity until the envelope is grown; the payload is then
what there is.
-/

namespace DeviceRpc

/-- The sixteen bytes of the union. -/
structure Carrier where
  bytes : Bytes
  length_bytes : bytes.length = carrierSize
  deriving DecidableEq

namespace Carrier

/-- All zeros. -/
def zero : Carrier := ⟨List.replicate carrierSize 0, by simp⟩

instance : Inhabited Carrier := ⟨zero⟩

/-- The number in a slot, least significant byte first. -/
def read (s : Slot) (c : Carrier) : Nat := Bytes.toNat (Bytes.window s.offset s.width c.bytes)

/-- The carrier with a number written over a slot. -/
def write (s : Slot) (v : Nat) (c : Carrier) : Carrier where
  bytes := Bytes.splice s.offset (Bytes.ofNat s.width v) c.bytes
  length_bytes := by
    rw [Bytes.length_splice]
    · exact c.length_bytes
    · simpa [c.length_bytes] using s.fits

/-- The first sixteen of some bytes, filled up with zeros. -/
def ofBytes (bs : Bytes) : Carrier :=
  ⟨Bytes.grow carrierSize (bs.take carrierSize), by
    rw [Bytes.length_grow, List.length_take]; omega⟩

end Carrier

/-- A request or a reply, with the envelope it is kept in. -/
structure Packet where
  protocol : UInt16 := 0
  index : UInt16 := 0
  command : UInt16 := 0
  option : UInt16 := 0
  channel : UInt16 := 0
  errorCode : UInt16 := 0
  /-- How many trailing bytes are in use. -/
  length : UInt32 := 0
  carrier : Carrier := .zero
  /-- The trailing bytes, in use or not. -/
  trailing : Bytes
  deriving DecidableEq

namespace Packet

/-- The capacity of an envelope that asks for none. -/
def defaultCapacity : Nat := 992

/-- The size that no envelope can reach. Below it memory is taken to be there for whoever asks: no
length that a header can tell is as large, so nothing that comes from a link is refused for want of
it. What becomes of an update where memory is refused is said of the `Envelope` steps. -/
def memoryLimit : Nat := 0x100000000000000

/-- A packet of zeros with room for `capacity` trailing bytes, the default for
zero. -/
def withCapacity (capacity : Nat) : Packet :=
  { trailing := List.replicate (if capacity = 0 then defaultCapacity else capacity) 0 }

/-- A packet of zeros with the default capacity. -/
def empty : Packet := withCapacity 0

instance : Inhabited Packet := ⟨empty⟩

/-- How many trailing bytes there is room for. -/
def capacity (p : Packet) : Nat := p.trailing.length

/-- The trailing bytes in use. -/
def payload (p : Packet) : Bytes := p.trailing.take p.length.toNat

/-- The packet with room for at least `size` trailing bytes, new ones zero, on the assumption that
the memory for them is granted (`memoryLimit`). -/
def grow (size : Nat) (p : Packet) : Except Failure Packet :=
  if size ≤ p.capacity then .ok p
  else if memoryLimit ≤ size then .error (.outOfMemory size)
  else .ok { p with trailing := Bytes.grow size p.trailing }

/-- The packet with `n` trailing bytes in use, grown to hold them. -/
def setLength (n : UInt32) (p : Packet) : Except Failure Packet :=
  return { ← p.grow n.toNat with length := n }

/-- The packet without a payload. -/
def clearPayload (p : Packet) : Packet := { p with length := 0 }

/-- The packet with `bs` written over its trailing bytes from `off` on. -/
def poke (off : Nat) (bs : Bytes) (p : Packet) : Packet :=
  { p with trailing := Bytes.splice off bs p.trailing }

/-- The packet with this payload, grown to hold it. -/
def setPayload (bs : Bytes) (p : Packet) : Except Failure Packet :=
  if UInt32.size ≤ bs.length then
    .error (.invalidArgument ("payload of " ++ toString bs.length ++ " bytes exceeds u32"))
  else return { (← p.grow bs.length).poke 0 bs with length := UInt32.ofNat bs.length }

/-- The number in a slot of the carrier. -/
def readSlot (s : Slot) (p : Packet) : Nat := p.carrier.read s

/-- The packet with a number written over a slot of the carrier. -/
def writeSlot (s : Slot) (v : Nat) (p : Packet) : Packet :=
  { p with carrier := p.carrier.write s v }

/-! ## The slots that commands use -/

/-- The floating-point number in a half of the carrier. -/
def f64 (h : Half) (p : Packet) : Binary64 := ⟨UInt64.ofNat (p.readSlot h.slot)⟩

/-- The packet with a floating-point number in a half of its carrier. -/
def setF64 (h : Half) (x : Binary64) (p : Packet) : Packet := p.writeSlot h.slot x.bits.toNat

/-- The limit that a request carries. -/
def limit (p : Packet) : UInt32 := UInt32.ofNat (p.readSlot Slot.limit)

/-- The packet with a limit in its carrier. -/
def setLimit (n : UInt32) (p : Packet) : Packet := p.writeSlot Slot.limit n.toNat

end Packet

end DeviceRpc
