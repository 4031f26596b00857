import FindQuery.Number.Int64Range
import FindQuery.Time.Moment
import FindQuery.Token.Kind

/-!
# Units of relative references

A relative reference counts seconds, minutes and hours, calendar units from a day
to a century, weekdays by name, or months by name.
-/

namespace FindQuery.Time

/-- Units of fixed length. -/
inductive ClockUnit where
  | second
  | minute
  | hour
  deriving DecidableEq, Repr, Inhabited

/-- The number of seconds of a clock unit. -/
def ClockUnit.seconds : ClockUnit → Int
  | second => 1
  | minute => 60
  | hour => 3600

/-- The number of nanoseconds of a clock unit. -/
def ClockUnit.nanos (unit : ClockUnit) : Int :=
  unit.seconds * secondNanos

/-- Drops everything below the unit, except for seconds, which stay as they are. -/
def ClockUnit.truncate : ClockUnit → Moment → Moment
  | second, moment => moment
  | unit, moment => moment.truncate unit.seconds

/-- Units of the calendar. -/
inductive CalendarUnit where
  | day
  | week
  | fortnight
  | month
  | quarter
  | year
  | century
  deriving DecidableEq, Repr, Inhabited

/-- The length of a period of time. -/
inductive Period where
  | nanos (count : Int)
  | days (count : Int)
  | months (count : Int)
  deriving DecidableEq, Repr, Inhabited

/-- The moment a period later. -/
def Period.after : Period → Moment → Moment
  | nanos count, moment => moment.addNanos count
  | days count, moment => moment.addDays count
  | months count, moment => moment.addMonths count

namespace CalendarUnit

/-- The period that a calendar unit names. -/
def period : CalendarUnit → Period
  | day => .days 1
  | week => .days 7
  | fortnight => .days 14
  | month => .months 1
  | quarter => .months 3
  | year => .months 12
  | century => .months 1200

/-- A rough number of days, which only bounds the counts that are tried at all. -/
def roughDays : CalendarUnit → Int
  | day => 1
  | week => 7
  | fortnight => 14
  | month => 30
  | quarter => 90
  | year => 365
  | century => 36500

/-- A rough number of nanoseconds. -/
def roughNanos (unit : CalendarUnit) : Int :=
  unit.roughDays * daySeconds * secondNanos

end CalendarUnit

/-- What a relative reference counts. -/
inductive TimeUnit where
  | clock (unit : ClockUnit)
  /-- A weekday, counted from Monday. -/
  | weekday (index : Fin 7)
  /-- A month of the year, counted from January. -/
  | monthName (index : Fin 12)
  | calendar (unit : CalendarUnit)
  deriving DecidableEq, Repr, Inhabited

/-- The unit that a kind of token names. -/
def TimeUnit.ofKind? : Kind → Option TimeUnit
  | .second => some (clock .second)
  | .minute => some (clock .minute)
  | .hour => some (clock .hour)
  | .monday => some (weekday 0)
  | .tuesday => some (weekday 1)
  | .wednesday => some (weekday 2)
  | .thursday => some (weekday 3)
  | .friday => some (weekday 4)
  | .saturday => some (weekday 5)
  | .sunday => some (weekday 6)
  | .january => some (monthName 0)
  | .february => some (monthName 1)
  | .march => some (monthName 2)
  | .april => some (monthName 3)
  | .may => some (monthName 4)
  | .june => some (monthName 5)
  | .july => some (monthName 6)
  | .august => some (monthName 7)
  | .september => some (monthName 8)
  | .october => some (monthName 9)
  | .november => some (monthName 10)
  | .december => some (monthName 11)
  | .day => some (calendar .day)
  | .week => some (calendar .week)
  | .fortnight => some (calendar .fortnight)
  | .month => some (calendar .month)
  | .quarter => some (calendar .quarter)
  | .year => some (calendar .year)
  | .century => some (calendar .century)
  | _ => none

end FindQuery.Time
