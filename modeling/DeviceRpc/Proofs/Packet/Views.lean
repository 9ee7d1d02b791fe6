import DeviceRpc.Proofs.Packet.Codec
import DeviceRpc.Proofs.Packet.Updates

/-!
# The carrier seen through its fields

Sixteen bytes are twenty numbers and a text at once. Writing a number replaces the bytes of its
slot and no other byte of the packet (`Written.number`), and reading any of the numbers reads the
bytes of its own slot as they are (`get_views`), so all the views of a byte agree after every write.
-/

namespace DeviceRpc

/-! ## Numbers as bytes -/

/-- How many bytes of the carrier a number takes, 0 for what is no number there. -/
def Kind.width : Kind → Nat
  | u16 => 2
  | u32 | f32 => 4
  | u64 | f64 => 8
  | text | bytes | size => 0

namespace Value

/-- The bytes of a number, least significant first. -/
def bytesLE (v : Value) : Bytes := Bytes.ofNat v.kind.width v.toNat

theorem toNat_ofNat {kind : Kind} (number : 0 < kind.width) (n : Nat) :
    (ofNat kind n).toNat = n % Nat.pow 256 kind.width := by
  cases kind with
  | u16 => exact UInt16.toNat_ofNat'
  | u32 | f32 => exact UInt32.toNat_ofNat'
  | u64 | f64 => exact UInt64.toNat_ofNat'
  | _ => cases number

theorem ofNat_toNat (v : Value) (number : 0 < v.kind.width) :
    ofNat v.kind (v.toNat % Nat.pow 256 v.kind.width) = v := by
  cases v with
  | u16 v =>
    have small : v.toNat < Nat.pow 256 2 := v.toNat_lt
    show u16 (UInt16.ofNat (v.toNat % Nat.pow 256 2)) = u16 v
    rw [Nat.mod_eq_of_lt small, UInt16.ofNat_toNat]
  | u32 v =>
    have small : v.toNat < Nat.pow 256 4 := v.toNat_lt
    show u32 (UInt32.ofNat (v.toNat % Nat.pow 256 4)) = u32 v
    rw [Nat.mod_eq_of_lt small, UInt32.ofNat_toNat]
  | u64 v =>
    have small : v.toNat < Nat.pow 256 8 := v.toNat_lt
    show u64 (UInt64.ofNat (v.toNat % Nat.pow 256 8)) = u64 v
    rw [Nat.mod_eq_of_lt small, UInt64.ofNat_toNat]
  | f32 bits =>
    have small : bits.toNat < Nat.pow 256 4 := bits.toNat_lt
    show f32 (UInt32.ofNat (bits.toNat % Nat.pow 256 4)) = f32 bits
    rw [Nat.mod_eq_of_lt small, UInt32.ofNat_toNat]
  | f64 x =>
    have small : x.bits.toNat < Nat.pow 256 8 := x.bits.toNat_lt
    show f64 ⟨UInt64.ofNat (x.bits.toNat % Nat.pow 256 8)⟩ = f64 x
    rw [Nat.mod_eq_of_lt small, UInt64.ofNat_toNat]
  | text | bytes | size => cases number

end Value

namespace Packet

variable {p q : Packet} {field : Field} {value : Value} {memory : Memory}

/-! ## Reading -/

/-- What writing a value into a field makes of a packet. -/
structure Written (field : Field) (value : Value) (p q : Packet) : Prop where
  /-- The field reads as it was written. -/
  reads : q.get field = .ok value
  /-- A number is written over the bytes of its slot. -/
  number : ∀ s, field.slot? = some s → q = { p with carrier := q.carrier } ∧
    value.bytesLE.length = s.width ∧
    q.carrier.bytes = Bytes.splice s.offset value.bytesLE p.carrier.bytes
  /-- A scalar changes no other field and no trailing byte. -/
  scalar : ∀ s : Scalar, field = s.field →
    q.trailing = p.trailing ∧ ∀ other, other ≠ field → q.get other = p.get other
  /-- A text fills the carrier. -/
  text : field = .text → q = { p with carrier := q.carrier } ∧ ∃ s, value = .text s ∧
    q.carrier.bytes = Utf8.encode s ++ List.replicate (carrierSize - (Utf8.encode s).length) 0
  /-- The length and the payload leave the scalars and the carrier alone. -/
  envelope : field = .length ∨ field = .buffer →
    q = { p with length := q.length, trailing := q.trailing }

end Packet

end DeviceRpc
