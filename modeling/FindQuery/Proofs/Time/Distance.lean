import FindQuery.Proofs.Time.Period

/-!
# Units counted back, in exact numbers

A reference that counts units back is compared here with arithmetic over all integers: the
number of nanoseconds that the clock shows so many units earlier, cut as the unit asks.
There are two reasons to refuse such a reference.  The instant may not have 64 bits in
nanoseconds since the epoch, or the count times the length of the unit may not have them; the
length of a calendar unit is a rough one.  Nothing else on the way is refused, and a period
that is not refused closes a nanosecond before the next more recent one opens.
-/

namespace FindQuery.Time

open FindQuery.Calendar
open FindQuery.Number

open Moment

/-! ## Ordinary instants -/

/-- A sum in two steps has 64 bits if the first step has them whenever the sum has. -/
theorem toInt64?_bind_add
    {whole part : Int} (fits : FitsInt64 (whole + part) → FitsInt64 whole) :
    ((toInt64? whole).bind fun number => toInt64? (number + part)) = toInt64? (whole + part) := by
  by_cases fitsWhole : FitsInt64 whole
  · rw [toInt64?_eq_some_iff.2 ⟨fitsWhole, rfl⟩, Option.bind_some]
  · rw [toInt64?_eq_none_iff.2 fitsWhole, toInt64?_eq_none_iff.2 (mt fits fitsWhole),
      Option.bind_none]

/--
An ordinary instant is refused only if its own number has not 64 bits: the whole seconds that
are counted first lie between that number and zero.
-/
theorem epochNanos?_of_isOrdinary
    {instant : Instant} (ordinary : instant.clock.IsOrdinary) :
    instant.epochNanos? =
      toInt64? (instant.clock.totalNanos - instant.offset * secondNanos) := by
  rcases ordinary with ⟨nonnegative, small⟩
  rw [Instant.epochNanos?]
  simp only [totalNanos, secondNanos] at *
  split
  · rw [toInt64?_bind_add]
    · congr 1
      omega
    · simp only [FitsInt64, int64Min, int64Max]
      omega
  · rw [toInt64?_bind_add]
    · congr 1
      omega
    · simp only [FitsInt64, int64Min, int64Max]
      omega

/-! ## Exact numbers -/

/-- Nanoseconds of a day. -/
def dayNanos : Int :=
  daySeconds * secondNanos

/-- What is left of some nanoseconds without the part below a clock unit; seconds leave all. -/
def ClockUnit.floor : ClockUnit → Int → Int
  | .second, nanos => nanos
  | unit, nanos => unit.nanos * (nanos / unit.nanos)

/--
The nanoseconds that the clock shows some periods before `now`.  Days are all of one length;
months lead to the midnight of the day of the same number, or of the last day of a month that
is shorter.
-/
def Period.nanosBefore (now : Moment) (count : Int) : Period → Int
  | .nanos length => now.totalNanos - length * count
  | .days length => now.totalNanos - length * count * dayNanos
  | .months length => dayNanos * Calendar.addMonths now.day (-(length * count))

/-- The nanoseconds that the clock shows some units before `now`; a name counts no units. -/
def TimeUnit.nanosBefore? (now : Moment) (count : Int) : TimeUnit → Option Int
  | .clock unit => some (unit.floor (now.totalNanos - count * unit.nanos))
  | .calendar unit => some (unit.period.nanosBefore now count)
  | .weekday _ => none
  | .monthName _ => none

/-- The length that a count is multiplied by, a rough one for a unit of the calendar. -/
def TimeUnit.length? : TimeUnit → Option Int
  | .clock unit => some unit.nanos
  | .calendar unit => some unit.roughNanos
  | .weekday _ => none
  | .monthName _ => none

theorem totalNanos_midnight (day : Int) : (midnight day).totalNanos = dayNanos * day := by
  simp only [totalNanos, midnight, dayNanos, daySeconds, secondNanos]
  omega

/-- Cutting a moment to a clock unit cuts its nanoseconds. -/
theorem totalNanos_truncate
    {moment : Moment} (ordinary : moment.IsOrdinary) (unit : ClockUnit) :
    (unit.truncate moment).IsOrdinary ∧
      (unit.truncate moment).totalNanos = unit.floor moment.totalNanos := by
  have here : Precedes moment moment := ⟨ordinary, ordinary, Int.le_refl _⟩
  refine ⟨(precedes_truncate here unit).ordinary, ?_⟩
  rcases ordinary with ⟨nonnegative, small⟩
  cases unit with
  | second => rfl
  | minute =>
      simp only [ClockUnit.truncate, ClockUnit.floor, ClockUnit.nanos, ClockUnit.seconds,
        Moment.truncate, totalNanos, secondNanos] at *
      omega
  | hour =>
      simp only [ClockUnit.truncate, ClockUnit.floor, ClockUnit.nanos, ClockUnit.seconds,
        Moment.truncate, totalNanos, secondNanos] at *
      omega

/-- A whole unit more is a whole unit more after the cut. -/
theorem ClockUnit.floor_add_nanos (unit : ClockUnit) (nanos : Int) :
    unit.floor (nanos + unit.nanos) = unit.floor nanos + unit.nanos := by
  cases unit with
  | second => rfl
  | minute =>
      simp only [ClockUnit.floor, ClockUnit.nanos, ClockUnit.seconds, secondNanos]
      omega
  | hour =>
      simp only [ClockUnit.floor, ClockUnit.nanos, ClockUnit.seconds, secondNanos]
      omega

/-! ## Units counted back -/

/-- A unit of the calendar has a length in days or in months. -/
theorem CalendarUnit.period_eq_days_or_months (unit : CalendarUnit) :
    (∃ days, unit.period = .days days) ∨ ∃ months, unit.period = .months months := by
  cases unit <;> simp [CalendarUnit.period]

/-- Steps back in the calendar are never refused. -/
theorem exists_stepsBack?
    (now : Moment) (unit : CalendarUnit) {count : Int} (nonnegative : 0 ≤ count) :
    ∃ moment, stepsBack? now unit.period count = some moment := by
  rcases unit.period_eq_days_or_months with ⟨days, isDays⟩ | ⟨months, isMonths⟩
  · exact ⟨_, (stepsBack?_eq_some_iff _ _ _ _).2 ⟨nonnegative, .inl ⟨days, isDays, rfl⟩⟩⟩
  · exact ⟨_, (stepsBack?_eq_some_iff _ _ _ _).2 ⟨nonnegative, .inr ⟨months, isMonths, rfl⟩⟩⟩

/-- Steps back in the calendar lead to the exact number of nanoseconds. -/
theorem totalNanos_stepsBack?
    {now moment : Moment} (ordinary : now.IsOrdinary) {period : Period} {count : Int}
    (found : stepsBack? now period count = some moment) :
    moment.IsOrdinary ∧ moment.totalNanos = period.nanosBefore now count := by
  rcases (stepsBack?_eq_some_iff _ _ _ _).1 found with
    ⟨-, ⟨days, rfl, rfl⟩ | ⟨months, rfl, rfl⟩⟩
  · refine ⟨ordinary, ?_⟩
    rw [totalNanos_addDays, Period.nanosBefore, dayNanos, Int.mul_assoc, Int.neg_mul,
      Int.sub_eq_add_neg]
  · exact ⟨isOrdinary_midnight _, totalNanos_midnight _⟩

/-- Only the distance of a clock unit is guarded. -/
theorem clockBack?_eq_some_iff
    (now moment : Moment) (unit : ClockUnit) (count : Int) (bound : Bound) :
    clockBack? now unit count bound = some moment ↔
      FitsInt64 (count * unit.nanos) ∧
        boundOf (unit.truncate (now.addNanos (-(count * unit.nanos)))) (.nanos unit.nanos)
          bound = moment := by
  simp [clockBack?, and_assoc]

/-- A unit that is counted has a start, unless the guard on its distance refuses it. -/
theorem unitsBack?_eq_none_iff
    (now : Moment) {unit : TimeUnit} {length count : Int} (counted : unit.length? = some length)
    (nonnegative : 0 ≤ count) (bound : Bound) :
    unitsBack? now unit count bound = none ↔ ¬ FitsInt64 (count * length) := by
  cases unit with
  | clock unit =>
      cases counted
      simp [unitsBack?, clockBack?]
  | weekday index => cases counted
  | monthName index => cases counted
  | calendar unit =>
      cases counted
      by_cases fits : FitsInt64 (count * unit.roughNanos)
      · rw [unitsBack?, calendarBack?, toInt64?_eq_some_iff.2 ⟨fits, rfl⟩, Option.bind_some]
        split
        · rename_i closes
          rcases exists_stepsBack? now unit (show 0 ≤ count - 1 by omega) with ⟨moment, found⟩
          simp [found, fits]
        · rcases exists_stepsBack? now unit nonnegative with ⟨moment, found⟩
          simp [found, fits]
      · simp [unitsBack?, calendarBack?, fits]

/-- A unit counted back opens at the exact number of nanoseconds. -/
theorem unitsBack?_opening
    {now moment : Moment} (ordinary : now.IsOrdinary) {unit : TimeUnit} {length count : Int}
    (counted : unit.length? = some length)
    (found : unitsBack? now unit count .opening = some moment) :
    moment.IsOrdinary ∧ unit.nanosBefore? now count = some moment.totalNanos := by
  cases unit with
  | clock unit =>
      rcases (clockBack?_eq_some_iff _ _ _ _ _).1 found with ⟨-, rfl⟩
      rcases addNanos_spec ordinary (-(count * unit.nanos)) with ⟨ordinaryBefore, totalBefore⟩
      rcases totalNanos_truncate ordinaryBefore unit with ⟨ordinaryStart, totalStart⟩
      refine ⟨ordinaryStart, ?_⟩
      rw [TimeUnit.nanosBefore?, boundOf, totalStart, totalBefore, Int.sub_eq_add_neg]
  | weekday index => cases counted
  | monthName index => cases counted
  | calendar unit =>
      rcases Option.bind_eq_some_iff.1 found with ⟨rough, -, steps⟩
      rw [if_neg (by simp)] at steps
      rcases Option.map_eq_some_iff.1 steps with ⟨start, stepped, rfl⟩
      rcases totalNanos_stepsBack? ordinary stepped with ⟨ordinaryStart, totalStart⟩
      refine ⟨ordinaryStart, ?_⟩
      rw [TimeUnit.nanosBefore?, boundOf, totalStart]

/-- A unit counted back closes a nanosecond before the exact start of the next one. -/
theorem unitsBack?_closing
    {now moment : Moment} (ordinary : now.IsOrdinary) {unit : TimeUnit} {length count : Int}
    (counted : unit.length? = some length) (positive : 0 < count)
    (found : unitsBack? now unit count .closing = some moment) :
    moment.IsOrdinary ∧ unit.nanosBefore? now (count - 1) = some (moment.totalNanos + 1) := by
  cases unit with
  | clock unit =>
      -- The start that is cut lies a unit before the start of the next one.
      rcases (clockBack?_eq_some_iff _ _ _ _ _).1 found with ⟨-, rfl⟩
      rcases addNanos_spec ordinary (-(count * unit.nanos)) with ⟨ordinaryBefore, totalBefore⟩
      rcases totalNanos_truncate ordinaryBefore unit with ⟨ordinaryStart, totalStart⟩
      rcases addNanos_spec ordinaryStart unit.nanos with ⟨ordinaryNext, totalNext⟩
      rcases addNanos_spec ordinaryNext (-1) with ⟨ordinaryLast, totalLast⟩
      have fewer :
          now.totalNanos - (count - 1) * unit.nanos =
            now.totalNanos + -(count * unit.nanos) + unit.nanos := by
        rw [Int.sub_mul, Int.one_mul]
        omega
      refine ⟨ordinaryLast, ?_⟩
      rw [TimeUnit.nanosBefore?, fewer, ClockUnit.floor_add_nanos, boundOf, Period.after,
        totalLast, totalNext, totalStart, totalBefore, Int.neg_add_cancel_right]
  | weekday index => cases counted
  | monthName index => cases counted
  | calendar unit =>
      rcases Option.bind_eq_some_iff.1 found with ⟨rough, -, steps⟩
      rw [if_pos ⟨rfl, positive⟩] at steps
      rcases Option.map_eq_some_iff.1 steps with ⟨next, stepped, rfl⟩
      rcases totalNanos_stepsBack? ordinary stepped with ⟨ordinaryNext, totalNext⟩
      rcases addNanos_spec ordinaryNext (-1) with ⟨ordinaryLast, totalLast⟩
      refine ⟨ordinaryLast, ?_⟩
      rw [TimeUnit.nanosBefore?, totalLast, ← totalNext, Int.neg_add_cancel_right]

/-! ## References -/

/--
A unit counted back opens at the exact instant, if the guard on the distance passes and the
instant has 64 bits in nanoseconds since the epoch.
-/
theorem resolve?_back_opening
    {now : Instant} (ordinary : now.clock.IsOrdinary)
    {unit : TimeUnit} {length count before : Int} (counted : unit.length? = some length)
    (exact : unit.nanosBefore? now.clock count = some before) (nonnegative : 0 ≤ count) :
    (Reference.back unit count).resolve? now .opening =
      if FitsInt64 (count * length) then toInt64? (before - now.offset * secondNanos)
      else none := by
  rw [Reference.resolve?]
  split
  · rename_i fits
    cases found : unitsBack? now.clock unit count .opening with
    | none => exact absurd fits ((unitsBack?_eq_none_iff _ counted nonnegative _).1 found)
    | some moment =>
        rcases unitsBack?_opening ordinary counted found with ⟨ordinaryStart, told⟩
        obtain rfl : before = moment.totalNanos := Option.some.inj (exact.symm.trans told)
        rw [Option.bind_some, epochNanos?_of_isOrdinary ordinaryStart]
  · rename_i unfit
    rw [(unitsBack?_eq_none_iff _ counted nonnegative _).2 unfit, Option.bind_none]

/-- A unit counted back closes a nanosecond before the unit after it opens. -/
theorem resolve?_closing_add_one
    {now : Instant} (ordinary : now.clock.IsOrdinary)
    {unit : TimeUnit} {length count closing opening : Int}
    (counted : unit.length? = some length) (positive : 0 < count)
    (closed : (Reference.back unit count).resolve? now .closing = some closing)
    (opened : (Reference.back unit (count - 1)).resolve? now .opening = some opening) :
    closing + 1 = opening := by
  rcases Option.bind_eq_some_iff.1 closed with ⟨last, lastFound, lastTold⟩
  rcases Option.bind_eq_some_iff.1 opened with ⟨start, startFound, startTold⟩
  have next := (unitsBack?_closing ordinary counted positive lastFound).2
  have same := (unitsBack?_opening ordinary counted startFound).2
  have seam : last.totalNanos + 1 = start.totalNanos := Option.some.inj (next.symm.trans same)
  rw [eq_of_epochNanos? lastTold, eq_of_epochNanos? startTold]
  simp only
  omega

end FindQuery.Time
