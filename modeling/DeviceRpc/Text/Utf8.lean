import DeviceRpc.Bytes

/-!
# UTF-8

Names travel as UTF-8. `encode` writes a text; `decode` reads bytes and, when
they are no text, says where the first sequence that is none begins and whether
it is broken or only cut short. Between two bytes the reader stands either
between characters or inside one, where it knows how many bytes are still owed
and the range the next one must lie in (`Inside`); the range is what keeps out
overlong forms, surrogates and numbers above the last code point.
-/

namespace DeviceRpc.Utf8

/-- The bytes of a text. -/
def encode (s : String) : Bytes := s.toList.flatMap String.utf8EncodeChar

/-- Why bytes are no text. -/
inductive Fault where
  /-- From `start`, `width` bytes began a sequence that the next byte breaks. -/
  | broken (width start : Nat)
  /-- From `start`, the bytes end inside a sequence. -/
  | cut (start : Nat)
  deriving DecidableEq, Repr

/-- The wording of a fault. -/
def Fault.message : Fault → String
  | .broken width start =>
    "invalid utf-8 sequence of " ++ toString width ++ " bytes from index " ++ toString start
  | .cut start => "incomplete utf-8 byte sequence from index " ++ toString start

/-- Where the reader stands inside a character. -/
structure Inside where
  /-- How many bytes are still owed after the next one. -/
  owed : Nat
  /-- The least byte that may come next. -/
  low : UInt8 := 0x80
  /-- The greatest byte that may come next. -/
  high : UInt8 := 0xBF
  /-- The bits of the code point read so far. -/
  bits : Nat
  /-- How many bytes of the character were read. -/
  seen : Nat := 1

/-- What the first byte of a longer sequence promises, `none` for a byte that
begins no sequence. -/
def lead? (b : UInt8) : Option Inside :=
  if b < 0xC2 then none
  else if b < 0xE0 then some { owed := 0, bits := b.toNat - 0xC0 }
  else if b = 0xE0 then some { owed := 1, low := 0xA0, bits := 0 }
  else if b = 0xED then some { owed := 1, high := 0x9F, bits := 0xD }
  else if b < 0xF0 then some { owed := 1, bits := b.toNat - 0xE0 }
  else if b = 0xF0 then some { owed := 2, low := 0x90, bits := 0 }
  else if b < 0xF4 then some { owed := 2, bits := b.toNat - 0xF0 }
  else if b = 0xF4 then some { owed := 2, high := 0x8F, bits := 4 }
  else none

/-- Reads on from offset `start`, which is where the current character begins. -/
def scan : Option Inside → (start : Nat) → Bytes → Except Fault (List Char)
  | none, _, [] => .ok []
  | some _, start, [] => .error (.cut start)
  | none, start, b :: rest =>
    if b < 0x80 then (Char.ofNat b.toNat :: ·) <$> scan none (start + 1) rest
    else match lead? b with
      | none => .error (.broken 1 start)
      | some inside => scan (some inside) start rest
  | some inside, start, b :: rest =>
    if inside.low ≤ b ∧ b ≤ inside.high then
      let bits := inside.bits * 64 + b.toNat % 64
      match inside.owed with
      | 0 => (Char.ofNat bits :: ·) <$> scan none (start + inside.seen + 1) rest
      | owed + 1 => scan (some { owed, bits, seen := inside.seen + 1 }) start rest
    else .error (.broken inside.seen start)

/-- The text that the bytes spell, or the first fault. -/
def decode (bs : Bytes) : Except Fault String := String.ofList <$> scan none 0 bs

end DeviceRpc.Utf8
