import FindQuery.Proofs.Time.Reference

/-!
# The period that a reference names

A reference that names a bound of either kind names one period: its first instant is
not after its last one.  Most periods close a nanosecond before a moment that lies one
period after their start; counted calendar units close a nanosecond before the start of
the next more recent unit.  Either way the period is not empty, also where the calendar
cuts a day to the length of its month.
-/

namespace FindQuery.Time

open FindQuery.Calendar
open FindQuery.Number

open Moment

/-! ## Periods from their start -/

/-- A nanosecond before a later moment is no earlier than the moment before it. -/
theorem precedes_addNanos_neg_one
    {start next : Moment} (ordinary : start.IsOrdinary) (ordinaryNext : next.IsOrdinary)
    (order : start.totalNanos < next.totalNanos) :
    Precedes start (next.addNanos (-1)) := by
  rcases addNanos_spec ordinaryNext (-1) with ⟨ordinaryLast, total⟩
  exact ⟨ordinary, ordinaryLast, by omega⟩

theorem totalNanos_midnight_lt {day later : Int} (order : day < later) :
    (midnight day).totalNanos < (midnight later).totalNanos := by
  simp only [totalNanos, midnight, daySeconds, secondNanos]
  omega

theorem isOrdinary_midnight (day : Int) : (midnight day).IsOrdinary :=
  (precedes_midnight (Int.le_refl day)).ordinary

/-- A period opens no later than it closes if the moment after it is later than its start. -/
theorem precedes_boundOf
    {start : Moment} {period : Period} (ordinary : start.IsOrdinary)
    (ordinaryAfter : (period.after start).IsOrdinary)
    (order : start.totalNanos < (period.after start).totalNanos) :
    Precedes (boundOf start period .opening) (boundOf start period .closing) :=
  precedes_addNanos_neg_one ordinary ordinaryAfter order

theorem precedes_boundOf_nanos
    {start : Moment} (ordinary : start.IsOrdinary) {count : Int} (positive : 0 < count) :
    Precedes (boundOf start (.nanos count) .opening) (boundOf start (.nanos count) .closing) := by
  rcases addNanos_spec ordinary count with ⟨ordinaryAfter, total⟩
  apply precedes_boundOf ordinary
  · exact ordinaryAfter
  · rw [Period.after, total]
    omega

theorem precedes_boundOf_days
    {start : Moment} (ordinary : start.IsOrdinary) {count : Int} (positive : 0 < count) :
    Precedes (boundOf start (.days count) .opening) (boundOf start (.days count) .closing) := by
  apply precedes_boundOf ordinary
  · exact ordinary
  · rw [Period.after, totalNanos_addDays]
    simp only [daySeconds, secondNanos]
    omega

/-- Whole months from a midnight on end at a later midnight. -/
theorem precedes_boundOf_midnight_months
    (day : Int) {count : Int} (positive : 0 < count) :
    Precedes (boundOf (midnight day) (.months count) .opening)
      (boundOf (midnight day) (.months count) .closing) := by
  have later : day < Calendar.addMonths day count := by
    have moved := addMonths_lt_addMonths day positive
    rwa [addMonths_zero] at moved
  apply precedes_boundOf (isOrdinary_midnight day)
  · rw [Period.after, addMonths_midnight]
    exact isOrdinary_midnight _
  · rw [Period.after, addMonths_midnight]
    exact totalNanos_midnight_lt later

/-! ## Units counted back -/

/-- The whole day of a reference opens before it closes. -/
theorem precedes_dayBack_bounds (now : Moment) (count : Int) :
    Precedes (dayBack now count .opening) (dayBack now count .closing) :=
  precedes_boundOf_days (isOrdinary_midnight _) (by decide)

theorem precedes_monthNameBack_bounds (now : Moment) (index : Fin 12) (count : Int) :
    Precedes (monthNameBack now index count .opening)
      (monthNameBack now index count .closing) :=
  precedes_boundOf_midnight_months _ (by decide)

theorem precedes_clockBack?_bounds
    {now opening closing : Moment} (ordinary : now.IsOrdinary)
    {unit : ClockUnit} {count : Int}
    (opened : clockBack? now unit count .opening = some opening)
    (closed : clockBack? now unit count .closing = some closing) :
    Precedes opening closing := by
  rcases Option.map_eq_some_iff.1 opened with ⟨distance, fits, rfl⟩
  rcases Option.map_eq_some_iff.1 closed with ⟨sameDistance, sameFits, rfl⟩
  obtain rfl : distance = sameDistance := Option.some.inj (fits.symm.trans sameFits)
  have here : Precedes now now := ⟨ordinary, ordinary, Int.le_refl _⟩
  have start := (precedes_truncate (here.addNanos (-distance)) unit).ordinary
  have positive : 0 < unit.nanos := by cases unit <;> decide
  exact precedes_boundOf_nanos start positive

/-- The periods of the calendar have at least a day or a month. -/
theorem CalendarUnit.pos_of_period_eq
    {unit : CalendarUnit} {count : Int}
    (length : unit.period = .days count ∨ unit.period = .months count) :
    0 < count := by
  rcases length with isDays | isMonths
  · cases unit <;> cases isDays <;> decide
  · cases unit <;> cases isMonths <;> decide

/-- A step further back leads to an earlier moment. -/
theorem stepsBack?_lt_pred
    {now earlier later : Moment} (ordinary : now.IsOrdinary) {unit : CalendarUnit} {count : Int}
    (found : stepsBack? now unit.period count = some earlier)
    (laterFound : stepsBack? now unit.period (count - 1) = some later) :
    earlier.IsOrdinary ∧ later.IsOrdinary ∧ earlier.totalNanos < later.totalNanos := by
  rcases stepsBack?_both found laterFound with
    ⟨days, isDays, rfl, rfl⟩ | ⟨months, isMonths, rfl, rfl⟩
  · have positive := CalendarUnit.pos_of_period_eq (.inl isDays)
    refine ⟨ordinary, ordinary, ?_⟩
    rw [totalNanos_addDays, totalNanos_addDays, Int.mul_sub]
    simp only [daySeconds, secondNanos]
    omega
  · have positive := CalendarUnit.pos_of_period_eq (.inr isMonths)
    have fewer : -(months * count) < -(months * (count - 1)) := by
      rw [Int.mul_sub]
      omega
    exact ⟨isOrdinary_midnight _, isOrdinary_midnight _,
      totalNanos_midnight_lt (addMonths_lt_addMonths now.day fewer)⟩

/-- A unit of the calendar that is counted from its own start is not empty. -/
theorem precedes_boundOf_stepsBack?_bounds
    {now start : Moment} (ordinary : now.IsOrdinary) {unit : CalendarUnit} {count : Int}
    (found : stepsBack? now unit.period count = some start) :
    Precedes (boundOf start unit.period .opening) (boundOf start unit.period .closing) := by
  rcases (stepsBack?_eq_some_iff _ _ _ _).1 found with
    ⟨-, ⟨days, isDays, rfl⟩ | ⟨months, isMonths, rfl⟩⟩
  · have positive := CalendarUnit.pos_of_period_eq (.inl isDays)
    rw [isDays]
    have sameNanos : (now.addDays (-(days * count))).IsOrdinary := ordinary
    exact precedes_boundOf_days sameNanos positive
  · have positive := CalendarUnit.pos_of_period_eq (.inr isMonths)
    rw [isMonths]
    exact precedes_boundOf_midnight_months _ positive

theorem precedes_calendarBack?_bounds
    {now opening closing : Moment} (ordinary : now.IsOrdinary)
    {unit : CalendarUnit} {count : Int}
    (opened : calendarBack? now unit count .opening = some opening)
    (closed : calendarBack? now unit count .closing = some closing) :
    Precedes opening closing := by
  rcases Option.bind_eq_some_iff.1 opened with ⟨rough, -, steps⟩
  rcases Option.bind_eq_some_iff.1 closed with ⟨sameRough, -, closingSteps⟩
  rw [if_neg (by simp)] at steps
  rcases Option.map_eq_some_iff.1 steps with ⟨start, found, rfl⟩
  by_cases counted : 0 < count
  · rw [if_pos ⟨rfl, counted⟩] at closingSteps
    rcases Option.map_eq_some_iff.1 closingSteps with ⟨next, nextFound, rfl⟩
    rcases stepsBack?_lt_pred ordinary found nextFound with ⟨ordinaryStart, ordinaryNext, order⟩
    exact precedes_addNanos_neg_one ordinaryStart ordinaryNext order
  · rw [if_neg (by simp [counted])] at closingSteps
    rcases Option.map_eq_some_iff.1 closingSteps with ⟨sameStart, sameFound, rfl⟩
    obtain rfl : start = sameStart := Option.some.inj (found.symm.trans sameFound)
    exact precedes_boundOf_stepsBack?_bounds ordinary found

theorem precedes_unitsBack?_bounds
    {now opening closing : Moment} (ordinary : now.IsOrdinary)
    {unit : TimeUnit} {count : Int}
    (opened : unitsBack? now unit count .opening = some opening)
    (closed : unitsBack? now unit count .closing = some closing) :
    Precedes opening closing := by
  cases unit with
  | clock unit => exact precedes_clockBack?_bounds ordinary opened closed
  | weekday index =>
      cases opened
      cases closed
      exact precedes_dayBack_bounds now _
  | monthName index =>
      cases opened
      cases closed
      exact precedes_monthNameBack_bounds now index count
  | calendar unit => exact precedes_calendarBack?_bounds ordinary opened closed

/-! ## References -/

/-- A timestamp is one instant, or it is a date and opens before it closes. -/
theorem resolve_opening_le_closing
    {now : Instant} {timestamp : Timestamp} {opening closing : Int}
    (opened : (timestamp.resolve now .opening).epochNanos? = some opening)
    (closed : (timestamp.resolve now .closing).epochNanos? = some closing) :
    opening ≤ closing := by
  cases timestamp with
  | date day =>
      have bounds := precedes_boundOf_days (isOrdinary_midnight day) (show (0 : Int) < 1 by decide)
      exact epochNanos?_mono bounds.totalNanos_le opened closed
  | instant named => exact Int.le_of_eq (Option.some.inj (opened.symm.trans closed))
  | moment clock => exact Int.le_of_eq (Option.some.inj (opened.symm.trans closed))
  | time timeOfDay => exact Int.le_of_eq (Option.some.inj (opened.symm.trans closed))

/-- The first instant of the period that a reference names is not after the last one. -/
theorem resolve?_opening_le_closing
    {now : Instant} (ordinary : now.clock.IsOrdinary)
    {reference : Reference} {opening closing : Int}
    (opened : reference.resolve? now .opening = some opening)
    (closed : reference.resolve? now .closing = some closing) :
    opening ≤ closing := by
  cases reference with
  | forever =>
      cases opened
      cases closed
      exact Int.le_refl _
  | wholeDay daysBack =>
      have bounds := precedes_dayBack_bounds now.clock daysBack
      exact epochNanos?_mono bounds.totalNanos_le opened closed
  | back unit count =>
      rcases Option.bind_eq_some_iff.1 opened with ⟨start, startFound, openedStart⟩
      rcases Option.bind_eq_some_iff.1 closed with ⟨last, lastFound, closedLast⟩
      have bounds := precedes_unitsBack?_bounds ordinary startFound lastFound
      exact epochNanos?_mono bounds.totalNanos_le openedStart closedLast
  | stamp text =>
      rcases Option.bind_eq_some_iff.1 opened with ⟨timestamp, said, openedStamp⟩
      rcases Option.bind_eq_some_iff.1 closed with ⟨same, saidAgain, closedStamp⟩
      obtain rfl : timestamp = same := Option.some.inj (said.symm.trans saidAgain)
      exact resolve_opening_le_closing openedStamp closedStamp

end FindQuery.Time
