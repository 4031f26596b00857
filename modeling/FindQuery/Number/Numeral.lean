import FindQuery.Number.Digits
import FindQuery.Text.LetterCase

/-!
# Numerals with a fraction and an exponent

```text
numeral   := sign? (infinity | undefined | decimal)
infinity  := "inf" | "infinity"
undefined := "nan"
decimal   := (digits ('.' digits?)? | '.' digits) (('e' | 'E') sign? digits)?
```

The words may be in any ASCII case.  A decimal numeral denotes its digits, read
as one natural number, times a power of ten.
-/

namespace FindQuery.Number

open FindQuery.Text

/-- What a numeral says without its sign. -/
inductive Magnitude where
  | infinite
  | undefined
  /-- A coefficient times a power of ten. -/
  | decimal (coefficient : Nat) (exponent : Int)
  deriving DecidableEq, Repr, Inhabited

/-- A sign and a magnitude. -/
structure Numeral where
  negative : Bool
  magnitude : Magnitude
  deriving DecidableEq, Repr, Inhabited

namespace Numeral

/-- The value of the text from the exponent mark on; no text is the exponent zero. -/
def exponent? : List Char → Option Int
  | [] => some 0
  | mark :: rest =>
      if mark = 'e' ∨ mark = 'E' then integer? rest else none

/-- The magnitude of a decimal numeral. -/
def decimal? (text : List Char) : Option Magnitude :=
  let whole := text.takeWhile Char.isDigit
  let afterWhole := text.dropWhile Char.isDigit
  let (fraction, tail) := match afterWhole with
    | '.' :: rest => (rest.takeWhile Char.isDigit, rest.dropWhile Char.isDigit)
    | rest => ([], rest)
  if whole.isEmpty && fraction.isEmpty then
    none
  else
    (exponent? tail).map fun exponent =>
      .decimal (digitsValue (whole ++ fraction)) (exponent - fraction.length)

/-- The magnitude that a text without sign denotes. -/
def magnitude? (text : List Char) : Option Magnitude :=
  let upper := asciiUpper text
  if upper = "INF".toList ∨ upper = "INFINITY".toList then
    some .infinite
  else if upper = "NAN".toList then
    some .undefined
  else
    decimal? text

/-- The numeral that a text denotes. -/
def ofText? : List Char → Option Numeral
  | '-' :: rest => (magnitude? rest).map fun magnitude => ⟨true, magnitude⟩
  | '+' :: rest => (magnitude? rest).map fun magnitude => ⟨false, magnitude⟩
  | text => (magnitude? text).map fun magnitude => ⟨false, magnitude⟩

end Numeral

end FindQuery.Number
