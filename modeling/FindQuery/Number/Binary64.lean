import FindQuery.Number.Numeral
import FindQuery.Number.Power

/-!
# The binary64 number nearest to a numeral

A binary64 word is a sign place and a magnitude code.  The codes of the finite
magnitudes count them in ascending order, so a significand `m` with exponent `q`
has the code `m + (q + 1074) * 2 ^ 52`, subnormal numbers included, and a carry
out of the significand is right by itself.  A numeral is rounded exactly, as a
ratio of natural numbers, to the nearest magnitude; of two equally near ones the
even significand wins.
-/

namespace FindQuery.Number

/-- A binary64 word. -/
structure Binary64 where
  bits : Nat
  deriving DecidableEq, Repr, Inhabited

namespace Binary64

/-- The place of the sign. -/
def signPlace : Nat := twoTo 63

/-- The code of infinity. -/
def infinityCode : Nat := 2047 * twoTo 52

/-- The code of an undefined value. -/
def undefinedCode : Nat := infinityCode + twoTo 51

/-- The natural number nearest to a ratio, the even one of two. -/
def roundRatio (numerator denominator : Nat) : Nat :=
  let quotient := numerator / denominator
  let double := 2 * (numerator % denominator)
  if double < denominator then
    quotient
  else if denominator < double then
    quotient + 1
  else
    quotient + quotient % 2

/-- A ratio divided by a power of two, rounded. -/
def significand (numerator denominator : Nat) (exponent : Int) : Nat :=
  if 0 ≤ exponent then
    roundRatio numerator (denominator * twoTo exponent.toNat)
  else
    roundRatio (numerator * twoTo (-exponent).toNat) denominator

/--
The exponent of the significand of a positive ratio: the least that leaves fewer
than 54 bits.
-/
def exponentOf (numerator denominator : Nat) : Int :=
  let estimate : Int := (numerator.log2 : Int) - (denominator.log2 : Int) - 53
  let isTooSmall :=
    if 0 ≤ estimate then
      decide (twoTo 53 * (denominator * twoTo estimate.toNat) ≤ numerator)
    else
      decide (twoTo 53 * denominator ≤ numerator * twoTo (-estimate).toNat)
  max (if isTooSmall then estimate + 1 else estimate) (-1074)

/-- The code of the magnitude nearest to a positive ratio. -/
def ratioCode (numerator denominator : Nat) : Nat :=
  let exponent := exponentOf numerator denominator
  min (significand numerator denominator exponent + (exponent + 1074).toNat * twoTo 52)
    infinityCode

/-- The number of decimal digits of a natural number. -/
def decimalSize (number : Nat) : Nat :=
  (Nat.toDigits 10 number).length

/--
The code of the magnitude nearest to a coefficient times a power of ten.  A
product of `10 ^ 309` or more is beyond all finite magnitudes, and one below
`10 ^ (-324)` is below half of the least positive one.
-/
def decimalCode (coefficient : Nat) (exponent : Int) : Nat :=
  let size : Int := decimalSize coefficient
  if coefficient = 0 ∨ size + exponent ≤ -324 then
    0
  else if 309 < size + exponent then
    infinityCode
  else if 0 ≤ exponent then
    ratioCode (coefficient * tenTo exponent.toNat) 1
  else
    ratioCode coefficient (tenTo (-exponent).toNat)

/-- The code of a magnitude. -/
def magnitudeCode : Magnitude → Nat
  | .infinite => infinityCode
  | .undefined => undefinedCode
  | .decimal coefficient exponent => decimalCode coefficient exponent

/-- The binary64 word nearest to a numeral. -/
def ofNumeral (numeral : Numeral) : Binary64 :=
  ⟨(if numeral.negative then signPlace else 0) + magnitudeCode numeral.magnitude⟩

/-- The binary64 word that a text denotes. -/
def ofText? (text : List Char) : Option Binary64 :=
  (Numeral.ofText? text).map ofNumeral

end Binary64

end FindQuery.Number
