import FindQuery.Time.TimeUnit
import FindQuery.Time.Timestamp

/-!
# References to periods of time

A reference names a period: an hour, a Tuesday, last month, a day.  As the
opening bound of a range it stands for the first instant of the period, as the
closing bound for the last one, a nanosecond before the next period.  Relative
references are taken on the clock of `now`.
-/

namespace FindQuery.Time

open FindQuery.Calendar
open FindQuery.Number

/-- Which end of a range a reference stands for. -/
inductive Bound where
  | opening
  | closing
  deriving DecidableEq, Repr, Inhabited

/-- A reference to a period of time. -/
inductive Reference where
  /-- The epoch. -/
  | forever
  /-- The whole day a number of days before the day of `now`. -/
  | wholeDay (daysBack : Nat)
  /-- A unit, counted back from `now`. -/
  | back (unit : TimeUnit) (count : Int)
  /-- A timestamp. -/
  | stamp (text : String)
  deriving DecidableEq, Repr, Inhabited

/-- The bound of the period that starts at a moment. -/
def boundOf (start : Moment) (period : Period) : Bound → Moment
  | .opening => start
  | .closing => (period.after start).addNanos (-1)

/-- The bound of the day a number of days before `now`. -/
def dayBack (now : Moment) (count : Int) (bound : Bound) : Moment :=
  boundOf (now.addDays (-count)).startOfDay (.days 1) bound

/-- Some clock units back, if the distance has 64 bits in nanoseconds. -/
def clockBack? (now : Moment) (unit : ClockUnit) (count : Int) (bound : Bound) :
    Option Moment :=
  (toInt64? (count * unit.nanos)).map fun distance =>
    boundOf (unit.truncate (now.addNanos (-distance))) (.nanos unit.nanos) bound

/--
The latest day that is a given weekday, today included; a count above one asks
for the one a week earlier.
-/
def weekdayBack (now : Moment) (weekday : Fin 7) (count : Int) (bound : Bound) : Moment :=
  let latest := (weekdayOf now.day + 7 - (weekday.val : Int)) % 7
  dayBack now (if 1 < count then latest + 7 else latest) bound

/--
The first moment of the latest month of a given name that is over, or of the one
`count - 1` years before it, as the start of a bound.
-/
def monthNameBack (now : Moment) (index : Fin 12) (count : Int) (bound : Bound) : Moment :=
  let current := monthOfDay now.day
  let year := current / 12 - (if current % 12 ≤ (index.val : Int) then 1 else 0)
  let month := 12 * (year - (max count 1 - 1)) + (index.val : Int)
  boundOf (Moment.midnight (monthStart month)) (.months 1) bound

/--
The opening moment of the period some steps before `now`.  Days keep the time of
day, months do not.  There is no negative number of steps.
-/
def stepsBack? (now : Moment) (period : Period) (count : Int) : Option Moment :=
  if count < 0 then
    none
  else
    match period with
    | .days days => some (now.addDays (-(days * count)))
    | .months months => some (now.addMonths (-(months * count))).startOfDay
    | .nanos _ => none

/--
Some calendar units back.  The period closes where the next more recent one
opens.  A count whose rough length exceeds 64 bits is refused outright.
-/
def calendarBack? (now : Moment) (unit : CalendarUnit) (count : Int) (bound : Bound) :
    Option Moment :=
  (toInt64? (count * unit.roughNanos)).bind fun _ =>
    if bound = .closing ∧ 0 < count then
      (stepsBack? now unit.period (count - 1)).map (Moment.addNanos · (-1))
    else
      (stepsBack? now unit.period count).map (boundOf · unit.period bound)

/-- The bound of the period some units back. -/
def unitsBack? (now : Moment) (unit : TimeUnit) (count : Int) (bound : Bound) :
    Option Moment :=
  match unit with
  | .clock unit => clockBack? now unit count bound
  | .weekday index => some (weekdayBack now index count bound)
  | .monthName index => some (monthNameBack now index count bound)
  | .calendar unit => calendarBack? now unit count bound

/-- The instant that a timestamp stands for; a date alone stands for the whole day. -/
def Timestamp.resolve (timestamp : Timestamp) (now : Instant) (bound : Bound) : Instant :=
  match timestamp with
  | .instant named => named
  | .moment clock => { now with clock := clock }
  | .date day => { now with clock := boundOf (Moment.midnight day) (.days 1) bound }
  | .time timeOfDay => { now with clock := timeOfDay.onDay now.clock.day }

/-- The nanoseconds since the epoch that a reference stands for, if they have 64 bits. -/
def Reference.resolve? (reference : Reference) (now : Instant) (bound : Bound) : Option Int :=
  match reference with
  | .forever => some 0
  | .wholeDay daysBack =>
      Instant.epochNanos? { now with clock := dayBack now.clock daysBack bound }
  | .back unit count =>
      (unitsBack? now.clock unit count bound).bind fun moment =>
        Instant.epochNanos? { now with clock := moment }
  | .stamp text =>
      (Timestamp.ofText? text.toList).bind fun timestamp =>
        (timestamp.resolve now bound).epochNanos?

end FindQuery.Time
