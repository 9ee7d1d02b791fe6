import DeviceRpc.Bytes

/-!
# Packet fields

The thirty fields of a packet by number. Six scalars and the payload length
stand in the header; sixteen bytes, the carrier, are one union: the same bytes
seen as words of two, four or eight bytes, as floating-point numbers or as a
short text. A carrier number occupies a `Slot`, a range of the carrier that by
construction lies inside it.
-/

namespace DeviceRpc

/-- The header with the carrier. -/
def headerSize : Nat := 32

/-- The union inside the header. -/
def carrierSize : Nat := 16

/-- What a field holds. -/
inductive Kind where
  | u16 | u32 | u64 | f32 | f64 | text | bytes | size
  deriving DecidableEq, Repr

/-- The name that messages show. -/
def Kind.name : Kind → String
  | u16 => "U16" | u32 => "U32" | u64 => "U64" | f32 => "F32" | f64 => "F64"
  | text => "Str" | bytes => "Bytes" | size => "Size"

/-- A field of a packet. -/
inductive Field where
  | protocol | index | command | option | channel | errorCode
  /-- The number of payload bytes in use. -/
  | length
  /-- A word of the carrier. -/
  | u16 (slot : Fin 8) | u32 (slot : Fin 4) | f32 (slot : Fin 4) | f64 (slot : Fin 2)
  /-- The carrier as a text that ends at the first zero byte. -/
  | text
  /-- The payload. -/
  | buffer
  /-- The capacity of the envelope. -/
  | size
  | u64 (slot : Fin 2)
  deriving DecidableEq, Repr

/-- A range of bytes inside the carrier. -/
structure Slot where
  offset : Nat
  width : Nat
  fits : offset + width ≤ carrierSize

namespace Slot

/-- A word of two bytes. -/
def word2 (i : Fin 8) : Slot := ⟨2 * i, 2, by unfold carrierSize; omega⟩

/-- A word of four bytes. -/
def word4 (i : Fin 4) : Slot := ⟨4 * i, 4, by unfold carrierSize; omega⟩

/-- A word of eight bytes. -/
def word8 (i : Fin 2) : Slot := ⟨8 * i, 8, by unfold carrierSize; omega⟩

/-- Where a request says how much it wants. -/
def limit : Slot := word4 0

end Slot

/-- A half of the carrier. A reading stands in the first one, and so does a time in
seconds; a second reading stands in the other. -/
inductive Half where
  | first | second
  deriving DecidableEq, Repr

/-- Where a half stands. -/
def Half.slot : Half → Slot
  | first => .word8 0
  | second => .word8 1

namespace Field

/-- The fields in the order of their numbers, which run from 1. -/
def all : List Field :=
  [protocol, index, command, option, channel, errorCode, length,
    u16 0, u16 1, u16 2, u16 3, u16 4, u16 5, u16 6, u16 7,
    u32 0, u32 1, u32 2, u32 3, f32 0, f32 1, f32 2, f32 3, f64 0, f64 1,
    text, buffer, size, u64 0, u64 1]

/-- The number of a field. -/
def number : Field → Nat
  | protocol => 1 | index => 2 | command => 3 | option => 4 | channel => 5 | errorCode => 6
  | length => 7
  | u16 i => 8 + i | u32 i => 16 + i | f32 i => 20 + i | f64 i => 24 + i
  | text => 26 | buffer => 27 | size => 28
  | u64 i => 29 + i

/-- The field of a number. -/
def ofNumber? (n : Nat) : Option Field := all.find? (·.number = n)

/-- The name that messages show. -/
def name : Field → String
  | protocol => "Protocol" | index => "Index" | command => "Command" | option => "Option"
  | channel => "Channel" | errorCode => "ErrorCode" | length => "Length"
  | u16 i => "U16F" ++ toString i.val | u32 i => "U32F" ++ toString i.val
  | f32 i => "FF" ++ toString i.val | f64 i => "DF" ++ toString i.val
  | text => "Str" | buffer => "Buf" | size => "Size"
  | u64 i => "U64F" ++ toString i.val

/-- What the field takes and yields. -/
def kind : Field → Kind
  | protocol | index | command | option | channel | errorCode | u16 _ => .u16
  | length | u32 _ => .u32
  | u64 _ => .u64
  | f32 _ => .f32
  | f64 _ => .f64
  | text => .text
  | buffer => .bytes
  | size => .size

/-- Where a carrier number stands, `none` for every other field. -/
def slot? : Field → Option Slot
  | u16 i => some (.word2 i)
  | u32 i | f32 i => some (.word4 i)
  | u64 i | f64 i => some (.word8 i)
  | _ => none

end Field

end DeviceRpc
