import FindQuery.Number.Digits
import FindQuery.Number.Power
import FindQuery.Text.Blank
import FindQuery.Time.Moment

/-!
# Timestamps

A timestamp is written in one of these layouts, which are tried in this order:

1. a date, `T` or a space, a time with seconds, and an offset from universal
   time, each field with all its digits;
2. a date and a time with seconds, parted by blanks or by `T`;
3. a date and a time without seconds, parted by blanks or by `T`;
4. a date;
5. a time with seconds, then a time without seconds.

In the layouts without an offset a field may have fewer digits and blanks before
it, and the year may have a sign and then any number of digits.  Blanks around
the whole text do not count.
-/

namespace FindQuery.Time

open FindQuery.Calendar
open FindQuery.Number
open FindQuery.Text

/-- A time of day: seconds since midnight, and nanoseconds. -/
structure TimeOfDay where
  seconds : Int
  nanos : Int
  deriving DecidableEq, Repr, Inhabited

/-- The moment of a time of day on a day. -/
def TimeOfDay.onDay (time : TimeOfDay) (day : Int) : Moment :=
  ⟨daySeconds * day + time.seconds, time.nanos⟩

/-- What a timestamp says. -/
inductive Timestamp where
  /-- A moment on a clock of its own. -/
  | instant (instant : Instant)
  /-- A moment on the clock of the reader. -/
  | moment (moment : Moment)
  /-- A whole day on the clock of the reader. -/
  | date (day : Int)
  /-- A time of the day of the reader. -/
  | time (time : TimeOfDay)
  deriving DecidableEq, Repr, Inhabited

namespace Timestamp

/-- The time of day of some fields, if a clock shows it; the sixtieth second is a leap second. -/
def timeOfDay? (hour minute second : Nat) (nanos : Int) : Option TimeOfDay :=
  if hour < 24 ∧ minute < 60 ∧ second ≤ 60 then
    let whole := 3600 * (hour : Int) + 60 * minute
    if second = 60 then
      some ⟨whole + 59, secondNanos + nanos⟩
    else
      some ⟨whole + second, nanos⟩
  else
    none

/-- The day of a date, if the calendar has it. -/
def dayOf? (date : Date) : Option Int :=
  if date.IsValid then some date.toDay else none

/-- The text after an expected character. -/
def expect? (character : Char) : List Char → Option (List Char)
  | [] => none
  | first :: rest => if first = character then some rest else none

/--
The value of the digits at the start of a text, at most `most` of them, and the
text after them.
-/
def digits? (most : Nat) (text : List Char) : Option (Nat × List Char) :=
  let digits := (text.take most).takeWhile Char.isDigit
  if digits.isEmpty then
    none
  else
    some (digitsValue digits, text.drop digits.length)

/-- The value of exactly so many digits at the start of a text, and the text after them. -/
def exactDigits? (count : Nat) (text : List Char) : Option (Nat × List Char) :=
  let digits := (text.take count).takeWhile Char.isDigit
  if digits.length = count then
    some (digitsValue digits, text.drop count)
  else
    none

/-- The nanoseconds that the digits of a fraction stand for; digits after the ninth do not count. -/
def fractionNanos (digits : List Char) : Int :=
  let counted := digits.take 9
  digitsValue counted * tenTo (9 - counted.length)

/-- The nanoseconds of a fraction of a second, none of them where no point follows. -/
def fraction? : List Char → Option (Int × List Char)
  | '.' :: rest =>
      let digits := rest.takeWhile Char.isDigit
      if digits.isEmpty then
        none
      else
        some (fractionNanos digits, rest.drop digits.length)
  | text => some (0, text)

/-! ### The layout with an offset -/

/-- The sign of an offset: a plus, a hyphen or a minus sign. -/
def offsetSign? : List Char → Option (Int × List Char)
  | '+' :: rest => some (1, rest)
  | '-' :: rest => some (-1, rest)
  | '\u2212' :: rest => some (-1, rest)
  | _ => none

/-- The seconds of an offset, less than a day, and the text after it. -/
def offset? : List Char → Option (Int × List Char)
  | 'Z' :: rest => some (0, rest)
  | 'z' :: rest => some (0, rest)
  | text => do
      let (sign, text) ← offsetSign? text
      let (hours, text) ← exactDigits? 2 text
      let text ← expect? ':' text
      let (minutes, text) ← exactDigits? 2 text
      if hours < 24 ∧ minutes < 60 then
        some (sign * (3600 * (hours : Int) + 60 * minutes), text)
      else
        none

/-- The mark between a date and a time with an offset. -/
def dateMark? : List Char → Option (List Char)
  | 'T' :: rest => some rest
  | 't' :: rest => some rest
  | ' ' :: rest => some rest
  | _ => none

/-- The instant of a text in the layout with an offset. -/
def zoned? (text : List Char) : Option Instant := do
  let (year, text) ← exactDigits? 4 text
  let text ← expect? '-' text
  let (month, text) ← exactDigits? 2 text
  let text ← expect? '-' text
  let (dayOfMonth, text) ← exactDigits? 2 text
  let text ← dateMark? text
  let (hour, text) ← exactDigits? 2 text
  let text ← expect? ':' text
  let (minute, text) ← exactDigits? 2 text
  let text ← expect? ':' text
  let (second, text) ← exactDigits? 2 text
  let (nanos, text) ← fraction? text
  let (offset, text) ← offset? text
  let day ← dayOf? ⟨year, month, dayOfMonth⟩
  let time ← timeOfDay? hour minute second nanos
  if text.isEmpty then
    some ⟨time.onDay day, offset⟩
  else
    none

/-! ### The layouts without an offset -/

/-- A year: four digits at most, or a sign and any number of digits. -/
def year? (text : List Char) : Option (Int × List Char) :=
  match trimStart text with
  | '-' :: rest => (digits? rest.length rest).map fun read => (-(read.1 : Int), read.2)
  | '+' :: rest => (digits? rest.length rest).map fun read => ((read.1 : Int), read.2)
  | rest => (digits? 4 rest).map fun read => ((read.1 : Int), read.2)

/-- A field of one or two digits. -/
def field? (text : List Char) : Option (Nat × List Char) :=
  digits? 2 (trimStart text)

/-- A year, a month and a day, joined by hyphens. -/
def date? (text : List Char) : Option (Int × List Char) := do
  let (year, text) ← year? text
  let text ← expect? '-' text
  let (month, text) ← field? text
  let text ← expect? '-' text
  let (dayOfMonth, text) ← field? text
  let day ← dayOf? ⟨year, month, dayOfMonth⟩
  some (day, text)

/--
Hours and minutes, and after them seconds with an optional fraction where the
layout has them.
-/
def time? (withSeconds : Bool) (text : List Char) : Option TimeOfDay := do
  let (hour, text) ← field? text
  let text ← expect? ':' text
  let (minute, text) ← field? text
  if withSeconds then
    let text ← expect? ':' text
    let (second, text) ← field? text
    let (nanos, text) ← fraction? text
    if text.isEmpty then timeOfDay? hour minute second nanos else none
  else
    if text.isEmpty then timeOfDay? hour minute 0 0 else none

/-- A date and a time, parted by blanks or by `T`. -/
def dateTime? (withMark withSeconds : Bool) (text : List Char) : Option Moment := do
  let (day, text) ← date? text
  let text ← if withMark then expect? 'T' text else some (trimStart text)
  let time ← time? withSeconds text
  some (time.onDay day)

/-- A date that nothing follows. -/
def wholeDate? (text : List Char) : Option Int := do
  let (day, text) ← date? text
  if text.isEmpty then some day else none

/-- What a text says as a timestamp. -/
def ofText? (text : List Char) : Option Timestamp :=
  let text := trim text
  ((zoned? text).map instant).or <|
    ((dateTime? false true text).map moment).or <|
      ((dateTime? true true text).map moment).or <|
        ((dateTime? false false text).map moment).or <|
          ((dateTime? true false text).map moment).or <|
            ((wholeDate? text).map date).or <|
              ((time? true text).map time).or <|
                (time? false text).map time

end Timestamp

end FindQuery.Time
