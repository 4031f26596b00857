import FindQuery.Proofs.Time.Moment
import FindQuery.Time.Reference

/-!
# References in order

A reference that is resolved at two presents of one clock, the first no later than
the second, names bounds in the same order.  Every step of the way keeps the order:
counting back, finding a weekday or a month by its name, truncating, closing a period
and expressing the result in nanoseconds since the epoch.
-/

namespace FindQuery.Time

open FindQuery.Calendar
open FindQuery.Number

namespace Moment.Precedes

variable {earlier later : Moment}

/-! ## Bounds of periods -/

theorem boundOf_nanos
    (precedes : Precedes earlier later) (count : Int) (bound : Bound) :
    Precedes (boundOf earlier (.nanos count) bound) (boundOf later (.nanos count) bound) := by
  cases bound with
  | opening => exact precedes
  | closing => exact (precedes.addNanos count).addNanos (-1)

theorem boundOf_days
    (precedes : Precedes earlier later) (count : Int) (bound : Bound) :
    Precedes (boundOf earlier (.days count) bound) (boundOf later (.days count) bound) := by
  cases bound with
  | opening => exact precedes
  | closing => exact (precedes.addDays count).addNanos (-1)

end Moment.Precedes

open Moment

/-- Periods of months keep the order from midnight to midnight. -/
theorem precedes_boundOf_months
    {day later : Int} (order : day ≤ later) (count : Int) (bound : Bound) :
    Precedes (boundOf (midnight day) (.months count) bound)
      (boundOf (midnight later) (.months count) bound) := by
  cases bound with
  | opening => exact precedes_midnight order
  | closing =>
      have months := precedes_midnight (addMonths_mono order count)
      rw [boundOf, boundOf, Period.after, Period.after, addMonths_midnight, addMonths_midnight]
      exact months.addNanos (-1)

/-! ## Days, weekdays and months by name -/

theorem day_addDays (moment : Moment) (count : Int) :
    (moment.addDays count).day = moment.day + count := by
  simp only [Moment.addDays, Moment.onDay, Moment.day, secondOfDay, daySeconds]
  omega

/-- Bounds of days are in the order of the days, however far each is back. -/
theorem precedes_dayBack
    {now later : Moment} {count laterCount : Int}
    (order : now.day - count ≤ later.day - laterCount) (bound : Bound) :
    Precedes (dayBack now count bound) (dayBack later laterCount bound) := by
  rw [dayBack, dayBack]
  apply Precedes.boundOf_days
  apply precedes_midnight
  rw [day_addDays, day_addDays]
  omega

/-- The latest day with a given name is no earlier for a later present. -/
theorem precedes_weekdayBack
    {now later : Moment} (order : now.day ≤ later.day) (weekday : Fin 7) (count : Int)
    (bound : Bound) :
    Precedes (weekdayBack now weekday count bound) (weekdayBack later weekday count bound) := by
  apply precedes_dayBack
  have small := weekday.isLt
  simp only [weekdayOf]
  split
  · omega
  · omega

/-- The latest month with a given name is no earlier for a later present. -/
theorem precedes_monthNameBack
    {now later : Moment} (order : now.day ≤ later.day) (index : Fin 12) (count : Int)
    (bound : Bound) :
    Precedes (monthNameBack now index count bound) (monthNameBack later index count bound) := by
  have months := monthOfDay_mono order
  have small := index.isLt
  apply precedes_boundOf_months
  apply monthStart_mono
  split
  · split
    · omega
    · omega
  · split
    · omega
    · omega

/-! ## Units -/

theorem precedes_truncate
    {now later : Moment} (precedes : Precedes now later) (unit : ClockUnit) :
    Precedes (unit.truncate now) (unit.truncate later) := by
  cases unit with
  | second => exact precedes
  | minute => exact precedes.truncate (by decide)
  | hour => exact precedes.truncate (by decide)

theorem precedes_clockBack?
    {now later moment laterMoment : Moment} (precedes : Precedes now later)
    {unit : ClockUnit} {count : Int} {bound : Bound}
    (found : clockBack? now unit count bound = some moment)
    (laterFound : clockBack? later unit count bound = some laterMoment) :
    Precedes moment laterMoment := by
  rcases Option.map_eq_some_iff.1 found with ⟨distance, fits, rfl⟩
  rcases Option.map_eq_some_iff.1 laterFound with ⟨sameDistance, sameFits, rfl⟩
  obtain rfl : distance = sameDistance := Option.some.inj (fits.symm.trans sameFits)
  exact (precedes_truncate (precedes.addNanos (-distance)) unit).boundOf_nanos _ bound

theorem startOfDay_addMonths (moment : Moment) (count : Int) :
    (moment.addMonths count).startOfDay = midnight (Calendar.addMonths moment.day count) := by
  have sameDay : (moment.addMonths count).day = Calendar.addMonths moment.day count := by
    simp only [Moment.addMonths, Moment.onDay, Moment.day, secondOfDay, daySeconds]
    omega
  rw [startOfDay, sameDay]

/-- Steps back go by days at the same time of day, or by months to a midnight. -/
theorem stepsBack?_eq_some_iff
    (now moment : Moment) (period : Period) (count : Int) :
    stepsBack? now period count = some moment ↔
      0 ≤ count ∧
        ((∃ days, period = .days days ∧ moment = now.addDays (-(days * count))) ∨
          ∃ months,
            period = .months months ∧
              moment = midnight (Calendar.addMonths now.day (-(months * count)))) := by
  by_cases negative : count < 0
  · have noSteps : ¬ 0 ≤ count := Int.not_le.2 negative
    simp [stepsBack?, negative, noSteps]
  · have nonnegative : 0 ≤ count := by omega
    cases period with
    | nanos length => simp [stepsBack?]
    | days length => simp [stepsBack?, nonnegative, negative, eq_comm]
    | months length => simp [stepsBack?, nonnegative, negative, startOfDay_addMonths, eq_comm]

/-- Steps back by one period go by days from both presents, or by months from both. -/
theorem stepsBack?_both
    {now later moment laterMoment : Moment} {period : Period} {count laterCount : Int}
    (found : stepsBack? now period count = some moment)
    (laterFound : stepsBack? later period laterCount = some laterMoment) :
    (∃ days,
        period = .days days ∧ moment = now.addDays (-(days * count)) ∧
          laterMoment = later.addDays (-(days * laterCount))) ∨
      ∃ months,
        period = .months months ∧
          moment = midnight (Calendar.addMonths now.day (-(months * count))) ∧
            laterMoment =
              midnight (Calendar.addMonths later.day (-(months * laterCount))) := by
  rcases (stepsBack?_eq_some_iff _ _ _ _).1 found with ⟨-, ⟨days, rfl, rfl⟩ | ⟨months, rfl, rfl⟩⟩
  · rcases (stepsBack?_eq_some_iff _ _ _ _).1 laterFound with
      ⟨-, ⟨sameDays, same, rfl⟩ | ⟨months, other, -⟩⟩
    · cases same
      exact .inl ⟨days, rfl, rfl, rfl⟩
    · cases other
  · rcases (stepsBack?_eq_some_iff _ _ _ _).1 laterFound with
      ⟨-, ⟨days, other, -⟩ | ⟨sameMonths, same, rfl⟩⟩
    · cases other
    · cases same
      exact .inr ⟨months, rfl, rfl, rfl⟩

/-- As many steps back from a later present lead no further back. -/
theorem precedes_stepsBack?
    {now later moment laterMoment : Moment} (precedes : Precedes now later)
    {period : Period} {count : Int}
    (found : stepsBack? now period count = some moment)
    (laterFound : stepsBack? later period count = some laterMoment) :
    Precedes moment laterMoment := by
  rcases stepsBack?_both found laterFound with ⟨days, -, rfl, rfl⟩ | ⟨months, -, rfl, rfl⟩
  · exact precedes.addDays _
  · exact precedes_midnight (addMonths_mono precedes.day_le _)

/-- The periods that so many steps back open have their bounds in order. -/
theorem precedes_boundOf_stepsBack?
    {now later moment laterMoment : Moment} (precedes : Precedes now later)
    {period : Period} {count : Int} (bound : Bound)
    (found : stepsBack? now period count = some moment)
    (laterFound : stepsBack? later period count = some laterMoment) :
    Precedes (boundOf moment period bound) (boundOf laterMoment period bound) := by
  rcases stepsBack?_both found laterFound with ⟨days, rfl, rfl, rfl⟩ | ⟨months, rfl, rfl, rfl⟩
  · exact (precedes.addDays _).boundOf_days days bound
  · exact precedes_boundOf_months (addMonths_mono precedes.day_le _) months bound

theorem precedes_calendarBack?
    {now later moment laterMoment : Moment} (precedes : Precedes now later)
    {unit : CalendarUnit} {count : Int} {bound : Bound}
    (found : calendarBack? now unit count bound = some moment)
    (laterFound : calendarBack? later unit count bound = some laterMoment) :
    Precedes moment laterMoment := by
  rcases Option.bind_eq_some_iff.1 found with ⟨rough, -, steps⟩
  rcases Option.bind_eq_some_iff.1 laterFound with ⟨laterRough, -, laterSteps⟩
  by_cases closes : bound = .closing ∧ 0 < count
  · rw [if_pos closes] at steps laterSteps
    rcases Option.map_eq_some_iff.1 steps with ⟨start, opened, rfl⟩
    rcases Option.map_eq_some_iff.1 laterSteps with ⟨laterStart, laterOpened, rfl⟩
    exact (precedes_stepsBack? precedes opened laterOpened).addNanos (-1)
  · rw [if_neg closes] at steps laterSteps
    rcases Option.map_eq_some_iff.1 steps with ⟨start, opened, rfl⟩
    rcases Option.map_eq_some_iff.1 laterSteps with ⟨laterStart, laterOpened, rfl⟩
    exact precedes_boundOf_stepsBack? precedes bound opened laterOpened

theorem precedes_unitsBack?
    {now later moment laterMoment : Moment} (precedes : Precedes now later)
    {unit : TimeUnit} {count : Int} {bound : Bound}
    (found : unitsBack? now unit count bound = some moment)
    (laterFound : unitsBack? later unit count bound = some laterMoment) :
    Precedes moment laterMoment := by
  cases unit with
  | clock unit => exact precedes_clockBack? precedes found laterFound
  | weekday index =>
      cases found
      cases laterFound
      exact precedes_weekdayBack precedes.day_le index count bound
  | monthName index =>
      cases found
      cases laterFound
      exact precedes_monthNameBack precedes.day_le index count bound
  | calendar unit => exact precedes_calendarBack? precedes found laterFound

/-! ## Nanoseconds since the epoch -/

/-- An instant in nanoseconds since the epoch is what its clock shows less the offset. -/
theorem eq_of_epochNanos?
    {instant : Instant} {nanos : Int} (resolved : instant.epochNanos? = some nanos) :
    nanos = instant.clock.totalNanos - instant.offset * secondNanos := by
  rw [Instant.epochNanos?] at resolved
  simp only [totalNanos, secondNanos] at *
  split at resolved
  · rcases Option.bind_eq_some_iff.1 resolved with ⟨whole, fits, result⟩
    rcases toInt64?_eq_some_iff.1 fits with ⟨-, rfl⟩
    rcases toInt64?_eq_some_iff.1 result with ⟨-, rfl⟩
    omega
  · rcases Option.bind_eq_some_iff.1 resolved with ⟨whole, fits, result⟩
    rcases toInt64?_eq_some_iff.1 fits with ⟨-, rfl⟩
    rcases toInt64?_eq_some_iff.1 result with ⟨-, rfl⟩
    omega

theorem epochNanos?_mono
    {offset nanos laterNanos : Int} {moment later : Moment}
    (order : moment.totalNanos ≤ later.totalNanos)
    (resolved : Instant.epochNanos? ⟨moment, offset⟩ = some nanos)
    (laterResolved : Instant.epochNanos? ⟨later, offset⟩ = some laterNanos) :
    nanos ≤ laterNanos := by
  rw [eq_of_epochNanos? resolved, eq_of_epochNanos? laterResolved]
  simp only
  omega

/-- A timestamp does not name an earlier instant at a later present. -/
theorem resolve_mono
    {now later : Instant} (sameOffset : now.offset = later.offset)
    (precedes : Precedes now.clock later.clock)
    {timestamp : Timestamp} {bound : Bound} {nanos laterNanos : Int}
    (resolved : (timestamp.resolve now bound).epochNanos? = some nanos)
    (laterResolved : (timestamp.resolve later bound).epochNanos? = some laterNanos) :
    nanos ≤ laterNanos := by
  rw [eq_of_epochNanos? resolved, eq_of_epochNanos? laterResolved]
  cases timestamp with
  | instant named => exact Int.le_refl _
  | moment clock =>
      simp only [Timestamp.resolve, sameOffset]
      omega
  | date day =>
      simp only [Timestamp.resolve, sameOffset]
      omega
  | time timeOfDay =>
      -- A leap second in the text stays one: only the day depends on the present.
      have days := precedes.day_le
      simp only [Timestamp.resolve, TimeOfDay.onDay, totalNanos, sameOffset, daySeconds,
        secondNanos]
      omega

/-- A reference does not name an earlier instant at a later present. -/
theorem resolve?_mono
    {now later : Instant} (sameOffset : now.offset = later.offset)
    (precedes : Precedes now.clock later.clock)
    {reference : Reference} {bound : Bound} {nanos laterNanos : Int}
    (resolved : reference.resolve? now bound = some nanos)
    (laterResolved : reference.resolve? later bound = some laterNanos) :
    nanos ≤ laterNanos := by
  cases reference with
  | forever =>
      cases resolved
      cases laterResolved
      exact Int.le_refl _
  | wholeDay daysBack =>
      have order := precedes.day_le
      have days : now.clock.day - (daysBack : Int) ≤ later.clock.day - daysBack := by omega
      have bounds := precedes_dayBack days bound
      rw [Reference.resolve?, sameOffset] at resolved
      exact epochNanos?_mono bounds.totalNanos_le resolved laterResolved
  | back unit count =>
      rcases Option.bind_eq_some_iff.1 resolved with ⟨moment, found, resolvedMoment⟩
      rcases Option.bind_eq_some_iff.1 laterResolved with
        ⟨laterMoment, laterFound, laterResolvedMoment⟩
      have bounds := precedes_unitsBack? precedes found laterFound
      rw [sameOffset] at resolvedMoment
      exact epochNanos?_mono bounds.totalNanos_le resolvedMoment laterResolvedMoment
  | stamp text =>
      rcases Option.bind_eq_some_iff.1 resolved with ⟨timestamp, said, resolvedStamp⟩
      rcases Option.bind_eq_some_iff.1 laterResolved with ⟨same, saidAgain, laterResolvedStamp⟩
      obtain rfl : timestamp = same := Option.some.inj (said.symm.trans saidAgain)
      exact resolve_mono sameOffset precedes resolvedStamp laterResolvedStamp

end FindQuery.Time
