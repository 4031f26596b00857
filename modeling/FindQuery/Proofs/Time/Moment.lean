import FindQuery.Proofs.Calendar.Month
import FindQuery.Time.TimeUnit

/-!
# Ordinary moments in order

Outside leap seconds a moment is a number of nanoseconds, and shifting it adds to
that number.  `Precedes` says that two ordinary moments come in this order.  Shifts,
moves by days, truncation and midnights keep the order; so do moves by months, but
only from midnight to midnight, because they cut the day and keep the time of day.
-/

namespace FindQuery.Time

open FindQuery.Calendar

namespace Moment

instance (moment : Moment) : Decidable moment.IsOrdinary :=
  inferInstanceAs (Decidable (_ ∧ _))

/-! ## Shifts -/

/-- Carrying keeps the nanoseconds in all and gives an ordinary moment. -/
theorem carry_spec
    (seconds : Int) {nanos : Int} (low : -secondNanos ≤ nanos) (high : nanos < 2 * secondNanos) :
    (carry seconds nanos).IsOrdinary ∧
      (carry seconds nanos).totalNanos = seconds * secondNanos + nanos := by
  rw [carry]
  by_cases negative : nanos < 0
  · rw [if_pos negative]
    simp only [IsOrdinary, totalNanos, secondNanos] at *
    omega
  · rw [if_neg negative]
    by_cases small : nanos < secondNanos
    · rw [if_pos small]
      exact ⟨⟨Int.not_lt.1 negative, small⟩, rfl⟩
    · rw [if_neg small]
      simp only [IsOrdinary, totalNanos, secondNanos] at *
      omega

/-- A shift of an ordinary moment adds to its nanoseconds and makes no leap second. -/
theorem addNanos_spec {moment : Moment} (ordinary : moment.IsOrdinary) (count : Int) :
    (moment.addNanos count).IsOrdinary ∧
      (moment.addNanos count).totalNanos = moment.totalNanos + count := by
  have parts := Int.mul_tdiv_add_tmod count secondNanos
  have low := Int.lt_tmod_of_pos count (show 0 < secondNanos by decide)
  have high := Int.tmod_lt_of_pos count (show 0 < secondNanos by decide)
  rcases ordinary with ⟨nonnegative, small⟩
  have lowNanos : -secondNanos ≤ moment.nanos + count.tmod secondNanos := by omega
  have highNanos : moment.nanos + count.tmod secondNanos < 2 * secondNanos := by omega
  rcases carry_spec (moment.seconds + count.tdiv secondNanos) lowNanos highNanos with
    ⟨ordinaryCarry, total⟩
  rw [addNanos]
  simp only [if_pos small]
  refine ⟨ordinaryCarry, ?_⟩
  rw [total, totalNanos]
  simp only [secondNanos] at *
  omega

/-- A move by days keeps the time of day, so it adds whole days. -/
theorem totalNanos_addDays (moment : Moment) (count : Int) :
    (moment.addDays count).totalNanos =
      moment.totalNanos + count * daySeconds * secondNanos := by
  simp only [Moment.addDays, onDay, Moment.day, secondOfDay, totalNanos, daySeconds,
    secondNanos]
  omega

/-! ## Moments in order -/

/-- Two ordinary moments, the first no later than the second. -/
structure Precedes (earlier later : Moment) : Prop where
  ordinary : earlier.IsOrdinary
  ordinaryLater : later.IsOrdinary
  totalNanos_le : earlier.totalNanos ≤ later.totalNanos

namespace Precedes

variable {earlier later : Moment}

theorem seconds_le (precedes : Precedes earlier later) :
    earlier.seconds ≤ later.seconds := by
  rcases precedes with ⟨ordinary, ordinaryLater, order⟩
  simp only [IsOrdinary, totalNanos, secondNanos] at *
  omega

theorem day_le (precedes : Precedes earlier later) : earlier.day ≤ later.day := by
  have order := precedes.seconds_le
  simp only [Moment.day, daySeconds]
  omega

theorem addNanos (precedes : Precedes earlier later) (count : Int) :
    Precedes (earlier.addNanos count) (later.addNanos count) := by
  rcases addNanos_spec precedes.ordinary count with ⟨ordinary, total⟩
  rcases addNanos_spec precedes.ordinaryLater count with ⟨ordinaryLater, totalLater⟩
  have order := precedes.totalNanos_le
  exact ⟨ordinary, ordinaryLater, by omega⟩

theorem addDays (precedes : Precedes earlier later) (count : Int) :
    Precedes (earlier.addDays count) (later.addDays count) := by
  rcases precedes with ⟨ordinary, ordinaryLater, order⟩
  refine ⟨ordinary, ordinaryLater, ?_⟩
  rw [totalNanos_addDays, totalNanos_addDays]
  omega

/-- The last multiples of the same number of seconds are in order. -/
theorem truncate
    (precedes : Precedes earlier later) {seconds : Int} (positive : 0 < seconds) :
    Precedes (earlier.truncate seconds) (later.truncate seconds) := by
  have quotients := Int.ediv_le_ediv positive precedes.seconds_le
  have products := Int.mul_le_mul_of_nonneg_left quotients (Int.le_of_lt positive)
  refine ⟨?_, ?_, ?_⟩
  · simp [IsOrdinary, Moment.truncate, secondNanos]
  · simp [IsOrdinary, Moment.truncate, secondNanos]
  · simp only [totalNanos, Moment.truncate, secondNanos]
    omega

end Precedes

theorem precedes_midnight {day later : Int} (order : day ≤ later) :
    Precedes (midnight day) (midnight later) := by
  refine ⟨?_, ?_, ?_⟩
  · simp [IsOrdinary, midnight, secondNanos]
  · simp [IsOrdinary, midnight, secondNanos]
  · simp only [totalNanos, midnight, daySeconds, secondNanos]
    omega

@[simp]
theorem day_midnight (day : Int) : (midnight day).day = day := by
  simp only [Moment.day, midnight, daySeconds]
  omega

@[simp]
theorem secondOfDay_midnight (day : Int) : (midnight day).secondOfDay = 0 := by
  simp only [secondOfDay, midnight, daySeconds]
  omega

theorem onDay_midnight (day other : Int) : (midnight day).onDay other = midnight other := by
  rw [onDay, secondOfDay_midnight, midnight, midnight, Int.add_zero]

/-- A move by days or by months goes from midnight to midnight. -/
theorem addDays_midnight (day count : Int) :
    (midnight day).addDays count = midnight (day + count) := by
  rw [Moment.addDays, day_midnight, onDay_midnight]

theorem addMonths_midnight (day count : Int) :
    (midnight day).addMonths count = midnight (Calendar.addMonths day count) := by
  rw [Moment.addMonths, day_midnight, onDay_midnight]

end Moment

end FindQuery.Time
