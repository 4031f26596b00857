import FindQuery.Calendar.Month
import FindQuery.Number.Int64Range

/-!
# Moments and instants

A moment is what a clock on the wall shows: the seconds since midnight of day
`0` on that clock, and the nanoseconds within the second.  A leap second is the
second before it with a billion or more nanoseconds.  An instant is a moment on a
clock together with the clock's offset from universal time.  All arithmetic on
references happens on the clock; the offset enters only when an instant is
expressed in nanoseconds since the epoch.
-/

namespace FindQuery.Time

open FindQuery.Calendar
open FindQuery.Number

/-- Nanoseconds of a second. -/
def secondNanos : Int := 1000000000

/-- Seconds of a day. -/
def daySeconds : Int := 86400

/-- The reading of a clock: seconds since midnight of day `0`, and nanoseconds. -/
structure Moment where
  seconds : Int
  nanos : Int
  deriving DecidableEq, Repr, Inhabited

namespace Moment

/-- The day that the clock shows. -/
def day (moment : Moment) : Int :=
  moment.seconds / daySeconds

/-- The seconds since midnight that the clock shows. -/
def secondOfDay (moment : Moment) : Int :=
  moment.seconds % daySeconds

/-- Midnight at the start of a day. -/
def midnight (day : Int) : Moment :=
  ⟨daySeconds * day, 0⟩

/-- Midnight at the start of the day of a moment. -/
def startOfDay (moment : Moment) : Moment :=
  midnight moment.day

/-- The same time of day on another day. -/
def onDay (moment : Moment) (day : Int) : Moment :=
  ⟨daySeconds * day + moment.secondOfDay, moment.nanos⟩

/-- The same time of day a number of days later. -/
def addDays (moment : Moment) (count : Int) : Moment :=
  moment.onDay (moment.day + count)

/-- The same time of day a number of months later. -/
def addMonths (moment : Moment) (count : Int) : Moment :=
  moment.onDay (Calendar.addMonths moment.day count)

/-- A second and nanoseconds that may lie up to one second outside it, carried over. -/
def carry (seconds nanos : Int) : Moment :=
  if nanos < 0 then
    ⟨seconds - 1, nanos + secondNanos⟩
  else if nanos < secondNanos then
    ⟨seconds, nanos⟩
  else
    ⟨seconds + 1, nanos - secondNanos⟩

/--
The moment a number of nanoseconds later.  A shift that stays within a leap
second keeps it; a shift that leaves it counts the leap second as a repetition of
the second before it.
-/
def addNanos (moment : Moment) (count : Int) : Moment :=
  let seconds := count.tdiv secondNanos
  let nanos := count.tmod secondNanos
  if moment.nanos < secondNanos then
    carry (moment.seconds + seconds) (moment.nanos + nanos)
  else if 0 < seconds ∨ (0 < nanos ∧ 2 * secondNanos - nanos ≤ moment.nanos) then
    carry (moment.seconds + seconds) (moment.nanos - secondNanos + nanos)
  else if seconds < 0 then
    carry (moment.seconds + 1 + seconds) (moment.nanos - secondNanos + nanos)
  else
    ⟨moment.seconds, moment.nanos + nanos⟩

/-- The last whole multiple of some seconds on the clock. -/
def truncate (moment : Moment) (seconds : Int) : Moment :=
  ⟨seconds * (moment.seconds / seconds), 0⟩

/-- Outside leap seconds a moment is a number of nanoseconds. -/
def IsOrdinary (moment : Moment) : Prop :=
  0 ≤ moment.nanos ∧ moment.nanos < secondNanos

/-- The nanoseconds since midnight of day `0` that an ordinary moment shows. -/
def totalNanos (moment : Moment) : Int :=
  moment.seconds * secondNanos + moment.nanos

end Moment

/-- A clock's reading, and the seconds by which the clock is ahead of universal time. -/
structure Instant where
  clock : Moment
  offset : Int
  deriving DecidableEq, Repr, Inhabited

namespace Instant

/-- The instant some seconds and nanoseconds after the epoch, on a clock with an offset. -/
def ofEpoch (seconds nanos offset : Int) : Instant :=
  ⟨⟨seconds + offset, nanos⟩, offset⟩

/--
Nanoseconds since the epoch, if they and the whole seconds before them have 64
bits.  Before the epoch the whole seconds are those of the next second.
-/
def epochNanos? (instant : Instant) : Option Int :=
  let seconds := instant.clock.seconds - instant.offset
  if seconds < 0 then
    (toInt64? ((seconds + 1) * secondNanos)).bind fun whole =>
      toInt64? (whole + (instant.clock.nanos - secondNanos))
  else
    (toInt64? (seconds * secondNanos)).bind fun whole =>
      toInt64? (whole + instant.clock.nanos)

end Instant

end FindQuery.Time
