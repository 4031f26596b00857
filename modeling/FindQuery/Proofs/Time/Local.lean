import FindQuery.Proofs.Calendar.Date
import FindQuery.Proofs.Time.Distance

/-!
# Periods on the clock of the present

A weekday and a month of the year are looked for on the clock of the present, and name whole
days of that clock, from one midnight to another.  Days that are counted back keep the time
that it shows, and months lead to a midnight.  Minutes and hours start where that clock shows a
whole one.  The offset of the clock may be any number of seconds, and the present may
lie before the epoch: all quotients are rounded down.
-/

namespace FindQuery.Time

open FindQuery.Calendar
open FindQuery.Number

open Moment

/-! ## Instants on a clock -/

namespace Instant

/-- The nanoseconds since the epoch, however many bits they have. -/
def totalNanos (instant : Instant) : Int :=
  instant.clock.totalNanos - instant.offset * secondNanos

/-- The nanoseconds since the epoch at which the clock of an instant shows the start of a day. -/
def dayStart (instant : Instant) (day : Int) : Int :=
  totalNanos { instant with clock := midnight day }

/-- The bounds of some days on the clock of an instant, the day `after` following them. -/
def daysBound (instant : Instant) (first after : Int) : Bound → Int
  | .opening => instant.dayStart first
  | .closing => instant.dayStart after - 1

theorem dayStart_mono (instant : Instant) {day later : Int} (order : day ≤ later) :
    instant.dayStart day ≤ instant.dayStart later := by
  have midnights := (precedes_midnight order).totalNanos_le
  simp only [dayStart, totalNanos]
  omega

end Instant

/-! ## Whole days -/

theorem after_days_midnight (day count : Int) :
    (Period.days count).after (midnight day) = midnight (day + count) := by
  rw [Period.after, addDays_midnight]

theorem after_months_midnight (month count : Int) :
    (Period.months count).after (midnight (monthStart month)) =
      midnight (monthStart (month + count)) := by
  rw [Period.after, addMonths_midnight, addMonths_monthStart]

/-- A period from one midnight to another has the bounds of the days between them. -/
theorem epochNanos?_boundOf_midnight
    (now : Instant) {period : Period} {first after : Int}
    (leads : period.after (midnight first) = midnight after) (bound : Bound) :
    Instant.epochNanos? { now with clock := boundOf (midnight first) period bound } =
      toInt64? (now.daysBound first after bound) := by
  cases bound with
  | opening =>
      simp only [boundOf]
      rw [epochNanos?_of_isOrdinary (isOrdinary_midnight first)]
      rfl
  | closing =>
      rcases addNanos_spec (isOrdinary_midnight after) (-1) with ⟨ordinary, last⟩
      simp only [boundOf, leads]
      rw [epochNanos?_of_isOrdinary ordinary, last]
      congr 1
      simp only [Instant.daysBound, Instant.dayStart, Instant.totalNanos]
      omega

/-! ## Weekdays -/

/--
A weekday counted back is a day of the week that ends with today, or of the week before it
where the count is above one.
-/
theorem exists_weekday (now : Instant) (index : Fin 7) (count : Int) :
    ∃ back,
      (count ≤ 1 → 0 ≤ back ∧ back ≤ 6) ∧ (1 < count → 7 ≤ back ∧ back ≤ 13) ∧
        weekdayOf (now.clock.day - back) = index.val ∧
          ∀ bound,
            (Reference.back (.weekday index) count).resolve? now bound =
              toInt64? (now.daysBound (now.clock.day - back) (now.clock.day - back + 1) bound) := by
  have small := index.isLt
  refine ⟨if 1 < count then (weekdayOf now.clock.day + 7 - index.val) % 7 + 7
    else (weekdayOf now.clock.day + 7 - index.val) % 7, ?_, ?_, ?_, ?_⟩
  · intro first
    rw [if_neg (by omega)]
    omega
  · intro second
    rw [if_pos second]
    omega
  · simp only [weekdayOf]
    split <;> omega
  · intro bound
    rw [Reference.resolve?, unitsBack?, Option.bind_some, weekdayBack, dayBack, startOfDay,
      day_addDays, ← Int.sub_eq_add_neg]
    exact epochNanos?_boundOf_midnight now (after_days_midnight _ 1) bound

/-! ## Months by name -/

/-- A month by its name is counted back from the present month, in steps of twelve. -/
theorem exists_monthName (now : Instant) (index : Fin 12) {count : Int} (positive : 1 ≤ count) :
    ∃ first : Date,
      first.month = index.val + 1 ∧ first.day = 1 ∧
        12 * (count - 1) < monthOfDay now.clock.day - first.monthNumber ∧
          monthOfDay now.clock.day - first.monthNumber ≤ 12 * count ∧
            ∀ bound,
              (Reference.back (.monthName index) count).resolve? now bound =
                toInt64?
                  (now.daysBound (monthStart first.monthNumber)
                    (monthStart (first.monthNumber + 1)) bound) := by
  have small := index.isLt
  have number (year : Int) :
      Date.monthNumber ⟨year, index.val + 1, 1⟩ = 12 * year + index.val := by
    simp only [Date.monthNumber]
    omega
  refine ⟨⟨monthOfDay now.clock.day / 12 -
    (if monthOfDay now.clock.day % 12 ≤ (index.val : Int) then 1 else 0) - (count - 1),
    index.val + 1, 1⟩, rfl, rfl, ?_⟩
  rw [number]
  refine ⟨?_, ?_, ?_⟩
  · split <;> omega
  · split <;> omega
  · intro bound
    rw [Reference.resolve?, unitsBack?, Option.bind_some, monthNameBack]
    simp only [max_eq_left positive]
    exact epochNanos?_boundOf_midnight now (after_months_midnight _ 1) bound

/-! ## Calendar units -/

/-- The calendar units that are so many days. -/
def CalendarUnit.dayLengths : List (CalendarUnit × Int) :=
  [(.day, 1), (.week, 7), (.fortnight, 14)]

/-- The calendar units that are so many months. -/
def CalendarUnit.monthLengths : List (CalendarUnit × Int) :=
  [(.month, 1), (.quarter, 3), (.year, 12), (.century, 1200)]

theorem CalendarUnit.period_of_mem_dayLengths :
    ∀ entry ∈ dayLengths, entry.1.period = .days entry.2 := by
  decide

theorem CalendarUnit.period_of_mem_monthLengths :
    ∀ entry ∈ monthLengths, entry.1.period = .months entry.2 := by
  decide

theorem secondOfDay_addDays (moment : Moment) (count : Int) :
    (moment.addDays count).secondOfDay = moment.secondOfDay := by
  simp only [Moment.addDays, onDay, secondOfDay, daySeconds]
  omega

/-- A calendar unit counted back opens where as many steps lead, in a leap second as well. -/
theorem exists_stepsBack?_of_resolve?_calendar
    {now : Instant} {unit : CalendarUnit} {count opening : Int}
    (resolved : (Reference.back (.calendar unit) count).resolve? now .opening = some opening) :
    ∃ moment,
      stepsBack? now.clock unit.period count = some moment ∧
        opening = Instant.totalNanos { now with clock := moment } := by
  rcases Option.bind_eq_some_iff.1 resolved with ⟨start, found, told⟩
  rcases Option.bind_eq_some_iff.1 found with ⟨rough, -, steps⟩
  rw [if_neg (by simp)] at steps
  rcases Option.map_eq_some_iff.1 steps with ⟨moment, stepped, rfl⟩
  exact ⟨moment, stepped, eq_of_epochNanos? told⟩

/-- Days counted back lead to the same time of the clock on the day that lies so far back. -/
theorem exists_moment_of_resolve?_days
    {now : Instant} {unit : CalendarUnit} {days count opening : Int}
    (isDays : unit.period = .days days)
    (resolved : (Reference.back (.calendar unit) count).resolve? now .opening = some opening) :
    ∃ moment : Moment,
      moment.day = now.clock.day - days * count ∧
        moment.secondOfDay = now.clock.secondOfDay ∧ moment.nanos = now.clock.nanos ∧
          opening = Instant.totalNanos { now with clock := moment } := by
  rcases exists_stepsBack?_of_resolve?_calendar resolved with ⟨moment, stepped, told⟩
  rw [isDays] at stepped
  rcases (stepsBack?_eq_some_iff _ _ _ _).1 stepped with
    ⟨-, ⟨same, equal, rfl⟩ | ⟨months, other, -⟩⟩
  · cases equal
    refine ⟨_, ?_, secondOfDay_addDays _ _, rfl, told⟩
    rw [day_addDays]
    omega
  · cases other

/-- Months counted back lead to a midnight of the month that lies so far back. -/
theorem exists_date_of_resolve?_months
    {now : Instant} {unit : CalendarUnit} {months count opening : Int}
    (isMonths : unit.period = .months months)
    (resolved : (Reference.back (.calendar unit) count).resolve? now .opening = some opening) :
    ∃ date : Date,
      date.IsValid ∧ date.monthNumber = monthOfDay now.clock.day - months * count ∧
        date.day =
            min (Date.ofDay now.clock.day).day (daysOfMonth (isLeapYear date.year) date.month) ∧
          opening = now.dayStart date.toDay := by
  rcases exists_stepsBack?_of_resolve?_calendar resolved with ⟨moment, stepped, told⟩
  rw [isMonths] at stepped
  rcases (stepsBack?_eq_some_iff _ _ _ _).1 stepped with ⟨-, ⟨days, other, -⟩ | ⟨same, equal, rfl⟩⟩
  · cases other
  · cases equal
    rcases exists_date_of_addMonths now.clock.day (-(months * count)) with
      ⟨date, valid, number, dayOfMonth, named⟩
    refine ⟨date, valid, number, dayOfMonth, ?_⟩
    rw [told, Instant.dayStart, named]

/-! ## Clock units -/

/-- A clock unit counted back opens where what the clock shows so much earlier is cut. -/
theorem add_offset_of_resolve?_clock
    {now : Instant} (ordinary : now.clock.IsOrdinary)
    {unit : ClockUnit} {count opening : Int} (nonnegative : 0 ≤ count)
    (resolved : (Reference.back (.clock unit) count).resolve? now .opening = some opening) :
    opening + now.offset * secondNanos =
      unit.floor (now.clock.totalNanos - count * unit.nanos) := by
  rw [resolve?_back_opening ordinary rfl rfl nonnegative] at resolved
  split at resolved
  · rcases toInt64?_eq_some_iff.1 resolved with ⟨-, rfl⟩
    omega
  · cases resolved

/-- What is left without the part below a minute or an hour is the latest whole one. -/
theorem ClockUnit.eq_floor_iff
    {unit : ClockUnit} (cut : unit ≠ .second) (start nanos : Int) :
    start = unit.floor nanos ↔
      unit.nanos ∣ start ∧ start ≤ nanos ∧ nanos < start + unit.nanos := by
  cases unit with
  | second => exact absurd rfl cut
  | minute =>
      simp only [ClockUnit.floor, ClockUnit.nanos, ClockUnit.seconds, secondNanos]
      omega
  | hour =>
      simp only [ClockUnit.floor, ClockUnit.nanos, ClockUnit.seconds, secondNanos]
      omega

end FindQuery.Time
