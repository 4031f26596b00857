/-!
# The proleptic Gregorian calendar

Days are numbered from 1 January 1970, which is day `0`.  Months are numbered
from January of the year `0`, so month `12 * y + i` is the `i`-th month of the
year `y`, January being the `0`-th.  The calendar is the map from months to the
days on which they start; the month of a day, the length of a month and a move by
whole months all follow from it.
-/

namespace FindQuery.Calendar

/--
Years divisible by four are leap years, unless divisible by a hundred and not by
four hundred.
-/
def isLeapYear (year : Int) : Bool :=
  year % 4 == 0 && (year % 100 != 0 || year % 400 == 0)

/-- The day on which a year starts. -/
def yearStart (year : Int) : Int :=
  365 * (year - 1) + (year - 1) / 4 - (year - 1) / 100 + (year - 1) / 400 - 719162

/--
The days of a year before its `index`-th month.  The quotient gives the lengths
of the months as if February had thirty days; later months are corrected.
-/
def daysBeforeMonth (leap : Bool) (index : Int) : Int :=
  (367 * index + 5) / 12 - (if index ≤ 1 then 0 else if leap then 1 else 2)

/-- The day on which a month starts. -/
def monthStart (month : Int) : Int :=
  yearStart (month / 12) + daysBeforeMonth (isLeapYear (month / 12)) (month % 12)

/-- The number of days of a month. -/
def monthLength (month : Int) : Int :=
  monthStart (month + 1) - monthStart month

/--
The year of a day.  Four hundred years have 146097 days, so the estimate is at
most one year off.
-/
def yearOfDay (day : Int) : Int :=
  let estimate := 400 * (day + 719162) / 146097 + 1
  if day < yearStart estimate then
    estimate - 1
  else if yearStart (estimate + 1) ≤ day then
    estimate + 1
  else
    estimate

/-- The index in its year of the month that holds a day of the year, the first day being `0`. -/
def monthIndexOf (leap : Bool) (dayOfYear : Int) : Int :=
  let corrected :=
    dayOfYear +
      (if dayOfYear < 59 + (if leap then 1 else 0) then 0 else if leap then 1 else 2)
  (12 * corrected + 6) / 367

/-- The month of a day. -/
def monthOfDay (day : Int) : Int :=
  let year := yearOfDay day
  12 * year + monthIndexOf (isLeapYear year) (day - yearStart year)

/--
The day a number of months later, or earlier for a negative number: the same day
of that month, or the last one if the month is shorter.
-/
def addMonths (day count : Int) : Int :=
  let month := monthOfDay day
  let target := month + count
  monthStart target + min (day - monthStart month) (monthLength target - 1)

/-- The weekday of a day, counted from Monday; day `0` is a Thursday. -/
def weekdayOf (day : Int) : Int :=
  (day + 3) % 7

/-- A calendar date with its month from 1 to 12. -/
structure Date where
  year : Int
  month : Nat
  day : Nat
  deriving DecidableEq, Repr, Inhabited

namespace Date

/-- The month of a date. -/
def monthNumber (date : Date) : Int :=
  12 * date.year + ((date.month : Int) - 1)

/-- Whether the calendar has the date. -/
def IsValid (date : Date) : Prop :=
  1 ≤ date.month ∧ date.month ≤ 12 ∧ 1 ≤ date.day ∧
    (date.day : Int) ≤ monthLength date.monthNumber

instance (date : Date) : Decidable date.IsValid :=
  inferInstanceAs (Decidable (_ ∧ _ ∧ _ ∧ _))

/-- The day that a valid date names. -/
def toDay (date : Date) : Int :=
  monthStart date.monthNumber + ((date.day : Int) - 1)

/-- The date of a day. -/
def ofDay (day : Int) : Date where
  year := monthOfDay day / 12
  month := (monthOfDay day % 12 + 1).toNat
  day := (day - monthStart (monthOfDay day) + 1).toNat

end Date

/-- Consecutive years start 365 or 366 days apart. -/
theorem yearStart_succ (year : Int) :
    yearStart (year + 1) = yearStart year + (if isLeapYear year then 366 else 365) := by
  unfold yearStart isLeapYear
  split
  · rename_i leap
    simp only [Bool.and_eq_true, Bool.or_eq_true, beq_iff_eq, bne_iff_ne] at leap
    omega
  · rename_i notLeap
    simp only [Bool.and_eq_true, Bool.or_eq_true, beq_iff_eq, bne_iff_ne] at notLeap
    omega

/-- A day lies in its year. -/
theorem yearStart_yearOfDay_le (day : Int) :
    yearStart (yearOfDay day) ≤ day ∧ day < yearStart (yearOfDay day + 1) := by
  unfold yearOfDay
  simp only
  split
  · unfold yearStart at *
    omega
  · split
    · unfold yearStart at *
      omega
    · omega

end FindQuery.Calendar
