import DeviceRpc.Packet.Access

/-!
# Fields and the values they take

A field takes the values of its kind (`Fitting`): a scalar a word, a carrier number whatever its
slot holds, and the length, the text, the payload and the capacity what each of them is. What
`Packet.set` does is told by which of these a field and a value are.
-/

namespace DeviceRpc

/-- A value of the field's kind. -/
inductive Fitting : Field → Value → Prop where
  | scalar (s : Scalar) (v : UInt16) : Fitting s.field (.u16 v)
  | number {field : Field} {value : Value} {s : Slot} (slot : field.slot? = some s)
      (kind : value.kind = field.kind) : Fitting field value
  | length (n : UInt32) : Fitting .length (.u32 n)
  | text (s : String) : Fitting .text (.text s)
  | buffer (bs : Bytes) : Fitting .buffer (.bytes bs)
  | size (n : Nat) : Fitting .size (.size n)

theorem Fitting.of_kind {field : Field} {value : Value} (h : value.kind = field.kind) :
    Fitting field value := by
  cases field with
  | u16 i | u32 i | f32 i | f64 i | u64 i => exact .number rfl h
  | protocol => cases value with | u16 v => exact .scalar .protocol v | _ => cases h
  | index => cases value with | u16 v => exact .scalar .index v | _ => cases h
  | command => cases value with | u16 v => exact .scalar .command v | _ => cases h
  | option => cases value with | u16 v => exact .scalar .option v | _ => cases h
  | channel => cases value with | u16 v => exact .scalar .channel v | _ => cases h
  | errorCode => cases value with | u16 v => exact .scalar .errorCode v | _ => cases h
  | length => cases value with | u32 n => exact .length n | _ => cases h
  | text => cases value with | text s => exact .text s | _ => cases h
  | buffer => cases value with | bytes bs => exact .buffer bs | _ => cases h
  | size => cases value with | size n => exact .size n | _ => cases h

namespace Packet

variable (p : Packet)

theorem set_mismatch {field : Field} {value : Value} (h : value.kind ≠ field.kind) :
    p.set field value = .error (mismatch field field.kind value.kind) := by
  unfold set
  rw [if_pos h]

theorem set_scalar (s : Scalar) (v : UInt16) : p.set s.field (.u16 v) = .ok (p.setScalar s v) := by
  cases s <;> rfl

theorem set_number {field : Field} {value : Value} {s : Slot} (slot : field.slot? = some s)
    (kind : value.kind = field.kind) : p.set field value = .ok (p.writeSlot s value.toNat) := by
  unfold set
  rw [if_neg fun differs => differs kind]
  cases field with
  | u16 i | u32 i | f32 i | f64 i | u64 i =>
    cases slot
    rfl
  | _ => cases slot

end Packet

end DeviceRpc
