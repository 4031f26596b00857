import FindQuery.Proofs.Time.Local

/-!
# References to the past

Counting back never leads into the future: whatever a relative reference counts, as often as
a number without a minus says, it opens no later than the present.  Cutting a time to its hour,
walking back to a weekday, choosing the year of a month and cutting a day to the length of its
month all lead further back.
-/

namespace FindQuery.Time

open FindQuery.Calendar
open FindQuery.Number

open Moment

/-! ## Moments before a moment -/

/-- A day starts no later than a moment of it or of a later day. -/
theorem precedes_of_day_le
    {moment : Moment} (ordinary : moment.IsOrdinary) {day : Int} (order : day ≤ moment.day) :
    Precedes (midnight day) moment := by
  refine ⟨isOrdinary_midnight day, ordinary, ?_⟩
  rcases ordinary with ⟨nonnegative, small⟩
  simp only [totalNanos, midnight, Moment.day, daySeconds, secondNanos] at *
  omega

theorem precedes_addDays
    {moment : Moment} (ordinary : moment.IsOrdinary) {count : Int} (nonnegative : 0 ≤ count) :
    Precedes (moment.addDays (-count)) moment := by
  have sameNanos : (moment.addDays (-count)).IsOrdinary := ordinary
  refine ⟨sameNanos, ordinary, ?_⟩
  rw [totalNanos_addDays]
  simp only [daySeconds, secondNanos]
  omega

/-- What is cut off below a clock unit is not negative. -/
theorem ClockUnit.floor_le (unit : ClockUnit) (nanos : Int) : unit.floor nanos ≤ nanos := by
  cases unit with
  | second => exact Int.le_refl nanos
  | minute => exact Int.mul_ediv_self_le (by decide)
  | hour => exact Int.mul_ediv_self_le (by decide)

theorem addMonths_le (day : Int) {count : Int} (nonpositive : count ≤ 0) :
    Calendar.addMonths day count ≤ day := by
  by_cases none : count = 0
  · rw [none, addMonths_zero]
  · have earlier := addMonths_lt_addMonths day (show count < 0 by omega)
    rw [addMonths_zero] at earlier
    omega

/-! ## Units -/

variable {now start : Moment} (ordinary : now.IsOrdinary)

include ordinary

theorem precedes_dayBack_opening {count : Int} (nonnegative : 0 ≤ count) :
    Precedes (dayBack now count .opening) now := by
  apply precedes_of_day_le ordinary
  rw [day_addDays]
  omega

/-- The latest day of a name is today or earlier. -/
theorem precedes_weekdayBack_opening (index : Fin 7) (count : Int) :
    Precedes (weekdayBack now index count .opening) now := by
  apply precedes_dayBack_opening ordinary
  split <;> omega

/-- A month that is over started before the present one. -/
theorem precedes_monthNameBack_opening (index : Fin 12) (count : Int) :
    Precedes (monthNameBack now index count .opening) now := by
  have small := index.isLt
  have started := (monthStart_monthOfDay_le now.day).1
  apply precedes_of_day_le ordinary
  apply Int.le_trans _ started
  apply monthStart_mono
  split <;> omega

theorem precedes_clockBack?_opening
    {unit : ClockUnit} {count : Int} (nonnegative : 0 ≤ count)
    (found : clockBack? now unit count .opening = some start) :
    Precedes start now := by
  have counted : TimeUnit.length? (.clock unit) = some unit.nanos := rfl
  rcases unitsBack?_opening ordinary counted found with ⟨ordinaryStart, told⟩
  have cut := unit.floor_le (now.totalNanos - count * unit.nanos)
  have distance : 0 ≤ count * unit.nanos :=
    Int.mul_nonneg nonnegative (by cases unit <;> decide)
  refine ⟨ordinaryStart, ordinary, ?_⟩
  rw [← Option.some.inj told]
  omega

theorem precedes_calendarBack?_opening
    {unit : CalendarUnit} {count : Int}
    (found : calendarBack? now unit count .opening = some start) :
    Precedes start now := by
  rcases Option.bind_eq_some_iff.1 found with ⟨rough, -, steps⟩
  rw [if_neg (by simp)] at steps
  rcases Option.map_eq_some_iff.1 steps with ⟨moment, stepped, rfl⟩
  rcases (stepsBack?_eq_some_iff _ _ _ _).1 stepped with
    ⟨nonnegative, ⟨days, isDays, rfl⟩ | ⟨months, isMonths, rfl⟩⟩
  · have positive := CalendarUnit.pos_of_period_eq (.inl isDays)
    exact precedes_addDays ordinary (Int.mul_nonneg (Int.le_of_lt positive) nonnegative)
  · have positive := CalendarUnit.pos_of_period_eq (.inr isMonths)
    have distance := Int.mul_nonneg (Int.le_of_lt positive) nonnegative
    exact precedes_of_day_le ordinary (addMonths_le now.day (by omega))

theorem precedes_unitsBack?_opening
    {unit : TimeUnit} {count : Int} (nonnegative : 0 ≤ count)
    (found : unitsBack? now unit count .opening = some start) :
    Precedes start now := by
  cases unit with
  | clock unit => exact precedes_clockBack?_opening ordinary nonnegative found
  | weekday index =>
      cases found
      exact precedes_weekdayBack_opening ordinary index count
  | monthName index =>
      cases found
      exact precedes_monthNameBack_opening ordinary index count
  | calendar unit => exact precedes_calendarBack?_opening ordinary found

omit ordinary

/-! ## References -/

/--
A reference that counts back opens no later than the present, and so does the epoch once it has
begun.
-/
theorem resolve?_opening_le_totalNanos
    {now : Instant} (ordinary : now.clock.IsOrdinary) {reference : Reference}
    (unstamped : ∀ text, reference ≠ .stamp text)
    (begun : reference = .forever → 0 ≤ now.totalNanos)
    (unsigned : ∀ unit count, reference = .back unit count → 0 ≤ count)
    {opening : Int} (resolved : reference.resolve? now .opening = some opening) :
    opening ≤ now.totalNanos := by
  have bounded {moment : Moment} (precedes : Precedes moment now.clock)
      (told : Instant.epochNanos? { now with clock := moment } = some opening) :
      opening ≤ now.totalNanos := by
    have order := precedes.totalNanos_le
    rw [eq_of_epochNanos? told, Instant.totalNanos]
    simp only
    omega
  cases reference with
  | forever =>
      cases resolved
      exact begun rfl
  | wholeDay daysBack =>
      exact bounded (precedes_dayBack_opening ordinary (Int.natCast_nonneg daysBack)) resolved
  | back unit count =>
      rcases Option.bind_eq_some_iff.1 resolved with ⟨moment, found, told⟩
      exact bounded (precedes_unitsBack?_opening ordinary (unsigned unit count rfl) found) told
  | stamp text => exact absurd rfl (unstamped text)

end FindQuery.Time
