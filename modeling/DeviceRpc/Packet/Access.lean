import DeviceRpc.Packet.Name

/-!
# Access by field

Reading and writing a packet by field and typed value. A value of another kind
than the field's is refused, and so is writing the capacity. Of the rest, a
length or a payload may need more memory than there is, and a text may not fit
in the carrier; a number always goes in. The six scalars of the header are read
and written without a kind to check, too.
-/

namespace DeviceRpc

/-- A value that a field can hold. Floating-point numbers are kept as bits. -/
inductive Value where
  | u16 (v : UInt16) | u32 (v : UInt32) | u64 (v : UInt64)
  | f32 (bits : UInt32) | f64 (x : Binary64)
  | text (s : String) | bytes (bs : Bytes) | size (n : Nat)
  deriving DecidableEq

namespace Value

/-- The kind of a value. -/
def kind : Value → Kind
  | u16 _ => .u16 | u32 _ => .u32 | u64 _ => .u64 | f32 _ => .f32 | f64 _ => .f64
  | text _ => .text | bytes _ => .bytes | size _ => .size

/-- A carrier number of a field's kind. -/
def ofNat : Kind → Nat → Value
  | .u16, n => .u16 (UInt16.ofNat n)
  | .u32, n => .u32 (UInt32.ofNat n)
  | .u64, n => .u64 (UInt64.ofNat n)
  | .f32, n => .f32 (UInt32.ofNat n)
  | .f64, n => .f64 ⟨UInt64.ofNat n⟩
  | _, n => .size n

/-- The number that a carrier slot stores for a value. -/
def toNat : Value → Nat
  | u16 v => v.toNat | u32 v => v.toNat | u64 v => v.toNat | f32 bits => bits.toNat
  | f64 x => x.bits.toNat | size n => n
  | text _ | bytes _ => 0

end Value

namespace Packet

/-- A value of another kind than the field's. -/
def mismatch (field : Field) (expected got : Kind) : Failure :=
  .decode ("field " ++ field.name ++ " holds " ++ expected.name ++ ", not " ++ got.name)

/-- Why the capacity cannot be written. -/
def sizeIsReadOnly : Failure := .invalidArgument "SIZE is read-only; use reallocate"

/-- Reads a field. -/
def get (field : Field) (p : Packet) : Except Failure Value :=
  match field with
  | .protocol => .ok (.u16 p.protocol)
  | .index => .ok (.u16 p.index)
  | .command => .ok (.u16 p.command)
  | .option => .ok (.u16 p.option)
  | .channel => .ok (.u16 p.channel)
  | .errorCode => .ok (.u16 p.errorCode)
  | .length => .ok (.u32 p.length)
  | .text => .text <$> p.text
  | .buffer => .ok (.bytes p.payload)
  | .size => .ok (.size p.capacity)
  | field =>
    match field.slot? with
    | some s => .ok (.ofNat field.kind (p.readSlot s))
    | none => .error (mismatch field field.kind field.kind)

/-- Reads a field that the caller expects to hold a kind of value. -/
def getAs (kind : Kind) (field : Field) (p : Packet) : Except Failure Value := do
  let value ← p.get field
  if value.kind = kind then .ok value else .error (mismatch field kind value.kind)

/-- The packet with a field written. -/
def set (field : Field) (value : Value) (p : Packet) : Except Failure Packet :=
  if value.kind ≠ field.kind then .error (mismatch field field.kind value.kind)
  else match field, value with
    | .protocol, .u16 v => .ok { p with protocol := v }
    | .index, .u16 v => .ok { p with index := v }
    | .command, .u16 v => .ok { p with command := v }
    | .option, .u16 v => .ok { p with option := v }
    | .channel, .u16 v => .ok { p with channel := v }
    | .errorCode, .u16 v => .ok { p with errorCode := v }
    | .length, .u32 v => p.setLength v
    | .text, .text s => p.setText s
    | .buffer, .bytes bs => p.setPayload bs
    | .size, _ => .error sizeIsReadOnly
    | field, value =>
      match field.slot? with
      | some s => .ok (p.writeSlot s value.toNat)
      | none => .error (mismatch field field.kind value.kind)

end Packet

/-- A scalar of the header. -/
inductive Scalar where
  | protocol | index | command | option | channel | errorCode
  deriving DecidableEq, Repr

/-- The field of a scalar. -/
def Scalar.field : Scalar → Field
  | protocol => .protocol | index => .index | command => .command | option => .option
  | channel => .channel | errorCode => .errorCode

namespace Packet

/-- A scalar of the packet. -/
def scalar : Scalar → Packet → UInt16
  | .protocol, p => p.protocol
  | .index, p => p.index
  | .command, p => p.command
  | .option, p => p.option
  | .channel, p => p.channel
  | .errorCode, p => p.errorCode

/-- The packet with a scalar written. -/
def setScalar (s : Scalar) (v : UInt16) (p : Packet) : Packet :=
  match s with
  | .protocol => { p with protocol := v }
  | .index => { p with index := v }
  | .command => { p with command := v }
  | .option => { p with option := v }
  | .channel => { p with channel := v }
  | .errorCode => { p with errorCode := v }

end Packet

end DeviceRpc
