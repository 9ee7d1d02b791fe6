/-!
# Binary64 numbers

A reading and a time in seconds travel as the 64 bits of a binary floating-point
number. The library never calculates with them: it keeps the bits, and takes
the exact value out of them where a number is shown or becomes a duration.
A finite value is `magnitude · 2 ^ exponent`, the sign apart; every rounding
goes through `roundDiv`, which takes a quotient to the nearest whole number and
a half to the even one.
-/

namespace DeviceRpc

/-- The quotient rounded to the nearest whole number, a half to the even one. -/
def roundDiv (num den : Nat) : Nat :=
  let q := num / den
  let twice := 2 * (num % den)
  if twice < den then q else if den < twice then q + 1 else q + q % 2

/-- A power of two. -/
def twoTo (n : Nat) : Nat := Nat.pow 2 n

/-- A binary64 number by its bits. -/
structure Binary64 where
  bits : UInt64
  deriving DecidableEq, Repr, Inhabited

namespace Binary64

/-- Positive zero. -/
def zero : Binary64 := ⟨0⟩

/-- Positive infinity. -/
def infinity : Binary64 := ⟨0x7ff0000000000000⟩

/-- The quiet number that is none. -/
def notANumber : Binary64 := ⟨0x7ff8000000000000⟩

/-- Whether the sign bit is set. -/
def isNegative (x : Binary64) : Bool := 0x8000000000000000 ≤ x.bits

/-- The eleven bits of the exponent. -/
def exponentField (x : Binary64) : Nat := x.bits.toNat / twoTo 52 % twoTo 11

/-- The fifty-two bits of the fraction. -/
def fraction (x : Binary64) : Nat := x.bits.toNat % twoTo 52

/-- Whether the value is infinite, of either sign. -/
def isInfinite (x : Binary64) : Bool := x.exponentField = 0x7FF && x.fraction = 0

/-- Whether the bits are no number. -/
def isNaN (x : Binary64) : Bool := x.exponentField = 0x7FF && x.fraction ≠ 0

/-- The integer significand of a finite value. -/
def magnitude (x : Binary64) : Nat :=
  if x.exponentField = 0 then x.fraction else twoTo 52 + x.fraction

/-- A finite value is its magnitude divided by `2 ^ 1074`, times this power of two. -/
def scale (x : Binary64) : Nat := x.exponentField - 1

/-- A finite value without its sign, times a whole number, rounded. -/
def timesRounded (x : Binary64) (n : Nat) : Nat :=
  roundDiv (x.magnitude * twoTo x.scale * n) (twoTo 1074)

/-- Whether the value is greater than zero. -/
def isPositive (x : Binary64) : Bool :=
  !x.isNaN && !x.isNegative && (x.isInfinite || x.magnitude ≠ 0)

/-- The same number with the other sign. -/
def neg (x : Binary64) : Binary64 := ⟨x.bits ^^^ 0x8000000000000000⟩

/-- A count of seconds in whole nanoseconds: `none` unless it is positive and
below `2 ^ 64` seconds. A tiny count may round to no time at all. -/
def nanoseconds? (x : Binary64) : Option Nat :=
  if x.isPositive && !x.isInfinite then
    let ns := x.timesRounded 1000000000
    if ns < UInt64.size * 1000000000 then some ns else none
  else none

end Binary64

end DeviceRpc
