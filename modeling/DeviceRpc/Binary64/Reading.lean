import DeviceRpc.Binary64.Basic
import DeviceRpc.Text.Numeral

/-!
# Reading numbers

A decimal text becomes the nearest binary64 number, a tie going to the one with
an even significand. The text is a sign or none, then digits with or without a
point (digits on one side of it are enough), then an exponent or none; the words
for infinity and for no number are known in any case.
-/

namespace DeviceRpc.Binary64

/-- The bits of the positive number nearest to `num / den`, infinity where the
quotient lies beyond the finite numbers. The spacing of the numbers around the
quotient is `2 ^ (step - 1074)`; counted in it, the quotient has fifty-three
bits, or fewer where `step` is zero. -/
def ofRatio (num den : Nat) : Binary64 :=
  if num = 0 then zero
  else
    -- the quotient times 2 ^ 1074, which makes every spacing a whole number
    let num := num * twoTo 1074
    let step := (num / den).log2 - 52
    let bits := roundDiv num (den * twoTo step) + step * twoTo 52
    if infinity.bits.toNat ≤ bits then infinity else ⟨UInt64.ofNat bits⟩

/-- The number `digits · 10 ^ exponent`. A decimal that is far outside the range
of the finite numbers is decided by its length, before any power is taken. -/
def ofDecimal (digits : Nat) (exponent : Int) : Binary64 :=
  if digits = 0 then zero
  else
    let top := exponent + ((Nat.toDigits 10 digits).length : Nat)
    if 310 < top then infinity
    else if top < -330 then zero
    else if 0 ≤ exponent then ofRatio (digits * Nat.pow 10 exponent.toNat) 1
    else ofRatio digits (Nat.pow 10 (-exponent).toNat)

/-- The exponent after a number: nothing, or the letter `e`, a sign or none, and
digits. -/
def exponent? : List Char → Option Int
  | [] => some 0
  | e :: cs =>
    if e = 'e' || e = 'E' then
      let read (cs : List Char) : Option Int :=
        if cs ≠ [] ∧ cs.all Text.isDigit then some (Text.digitsValue cs) else none
      match cs with
      | '+' :: cs => read cs
      | '-' :: cs => (read cs).map (- ·)
      | cs => read cs
    else none

/-- A number without a sign: digits, a point or none, more digits, an exponent. -/
def unsigned? (cs : List Char) : Option Binary64 :=
  let whole := cs.takeWhile Text.isDigit
  let rest := cs.dropWhile Text.isDigit
  let (places, tail) := match rest with
    | '.' :: rest => (rest.takeWhile Text.isDigit, rest.dropWhile Text.isDigit)
    | rest => ([], rest)
  if whole = [] ∧ places = [] then none
  else
    (exponent? tail).map fun e =>
      ofDecimal (Text.digitsValue (whole ++ places)) (e - (places.length : Nat))

/-- A number or one of the words, without a sign. -/
def magnitude? (cs : List Char) : Option Binary64 :=
  let word := String.ofList (cs.map Char.toLower)
  if word = "inf" ∨ word = "infinity" then some infinity
  else if word = "nan" then some notANumber
  else unsigned? cs

/-- The number that a text spells, if it spells one. -/
def ofText? (s : String) : Option Binary64 :=
  match s.toList with
  | '+' :: cs => magnitude? cs
  | '-' :: cs => (magnitude? cs).map neg
  | cs => magnitude? cs

end DeviceRpc.Binary64
