/-!
# Numerals

Decimal numbers as an argument, a port or a setting gives them: ASCII digits,
where the grammar allows it after a single plus sign. `natural?` reads a number
below a bound and refuses everything else, the empty text included.
-/

namespace DeviceRpc.Text

/-- Whether a character is an ASCII digit. -/
def isDigit (c : Char) : Bool := '0' ≤ c && c ≤ '9'

/-- The number that decimal digits spell. -/
def digitsValue (cs : List Char) : Nat :=
  cs.foldl (fun n c => 10 * n + (c.toNat - '0'.toNat)) 0

/-- The number that one or more digits spell, if it is below `bound`. -/
def digits? (bound : Nat) (cs : List Char) : Option Nat :=
  if cs ≠ [] ∧ cs.all isDigit ∧ digitsValue cs < bound then some (digitsValue cs) else none

/-- A number below `bound`: digits, with or without a plus sign in front. -/
def natural? (bound : Nat) (s : String) : Option Nat :=
  match s.toList with
  | '+' :: cs => digits? bound cs
  | cs => digits? bound cs

/-- A number of sixteen bits. -/
def u16? (s : String) : Option UInt16 := (natural? UInt16.size s).map UInt16.ofNat

/-- A number of thirty-two bits. -/
def u32? (s : String) : Option UInt32 := (natural? UInt32.size s).map UInt32.ofNat

theorem isDigit_iff {c : Char} : isDigit c = true ↔ '0'.toNat ≤ c.toNat ∧ c.toNat ≤ '9'.toNat := by
  simp [isDigit, Char.le_def, UInt32.le_iff_toNat_le]

theorem isDigit_of_mem_toDigits {n : Nat} {c : Char} (h : c ∈ Nat.toDigits 10 n) :
    isDigit c = true := by
  have digit := Nat.isDigit_of_mem_toDigits (by decide) (by decide) h
  simpa [isDigit, Char.isDigit, Char.le_def] using digit

/-- A number is read back from its digits. -/
theorem natural?_toString {bound n : Nat} (h : n < bound) :
    natural? bound (toString n) = some n := by
  have value : digitsValue (Nat.toDigits 10 n) = n := Nat.ofDigitChars_ten_toDigits
  have all : (Nat.toDigits 10 n).all isDigit = true :=
    List.all_eq_true.mpr fun _ => isDigit_of_mem_toDigits
  unfold natural?
  rw [Nat.toString_eq_ofList_toDigits, String.toList_ofList]
  split
  next cs signed =>
    have plus : '+' ∈ Nat.toDigits 10 n := by
      rw [signed]
      exact List.mem_cons_self ..
    cases isDigit_of_mem_toDigits plus
  next => rw [digits?, value, if_pos ⟨Nat.toDigits_ne_nil, all, h⟩]

theorem u16?_toString (n : UInt16) : u16? (toString n.toNat) = some n := by
  rw [u16?, natural?_toString n.toNat_lt, Option.map_some, UInt16.ofNat_toNat]

end DeviceRpc.Text
