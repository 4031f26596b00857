import FindQuery.Number.Digits
import FindQuery.Number.Int64Range
import FindQuery.Number.Power

/-!
# Integer literals

```text
literal  := sign? mantissa (('e' | 'E') exponent)?
mantissa := sign? digits
exponent := '+'? digits
```

The outer sign, the mantissa and the power of ten are each 64-bit integers, and
so is the product after each step; otherwise the literal has no value.  The
mantissa may carry a sign of its own.  An exponent has 32 bits and no minus.
-/

namespace FindQuery.Number.IntLiteral

/-- The factor that a leading sign stands for, and the text after it. -/
def splitSign : List Char → Int × List Char
  | '-' :: rest => (-1, rest)
  | '+' :: rest => (1, rest)
  | text => (1, text)

/-- Whether a character starts the exponent. -/
def isMark (character : Char) : Bool :=
  character == 'e' || character == 'E'

/-- The greatest exponent that can be written. -/
def exponentMax : Nat := 4294967295

/-- The value of the text after the exponent mark. -/
def exponent? (text : List Char) : Option Nat :=
  let digits := match text with
    | '+' :: rest => rest
    | rest => rest
  (natural? digits).filter (· ≤ exponentMax)

/-- A power of ten if it has 64 bits. -/
def powerOfTen? (exponent : Nat) : Option Int :=
  if exponent ≤ 18 then some (tenTo exponent) else none

/-- The power of ten that the text from the exponent mark on stands for. -/
def scale? : List Char → Option Int
  | [] => some 1
  | _ :: exponent => (exponent? exponent).bind powerOfTen?

/-- The value of an integer literal. -/
def value? (raw : List Char) : Option Int :=
  let (sign, body) := splitSign raw
  let digits := body.takeWhile fun character => !isMark character
  let tail := body.dropWhile fun character => !isMark character
  do
    let scale ← scale? tail
    let mantissa ← (integer? digits).bind toInt64?
    let product ← toInt64? (mantissa * scale)
    toInt64? (product * sign)

end FindQuery.Number.IntLiteral
