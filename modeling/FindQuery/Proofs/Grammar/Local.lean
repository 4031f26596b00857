import FindQuery.Proofs.Grammar.Bound
import FindQuery.Proofs.Time.Local

/-!
# Local periods as they are read

What a month by its name, a weekday, a calendar unit and a clock unit mean on the clock of the
present is said here of the tokens that spell them, whatever follows these.  A month is the
latest of its name that is over, or so many years before that one; a weekday is the latest day
of its name, or the one before it; days counted back keep the time of day, and months the day of
the month if they can; minutes and hours are whole ones of the clock, wherever its offset puts
them.
-/

namespace FindQuery.Grammar

open FindQuery.Calendar
open FindQuery.Number
open FindQuery.Time

variable {shape : Shape} {phrase rest : List Token} {now : Instant}

/-! ## Whole days -/

/--
Tokens are read as the days of a clock from `first` on and before `after`.  They open with the
first midnight and close a nanosecond before the other one, if the bound has 64 bits; the same
tokens are left after both bounds.
-/
structure ReadsDays
    (now : Instant) (tokens rest : List Token) (first after : Int) : Prop where
  opening (nanos : Int) (left : List Token) :
    readBound now .opening tokens = .ok nanos left ↔
      FitsInt64 nanos ∧ nanos = now.dayStart first ∧ left = rest
  closing (nanos : Int) (left : List Token) :
    readBound now .closing tokens = .ok nanos left ↔
      FitsInt64 nanos ∧ nanos + 1 = now.dayStart after ∧ left = rest

/-- A phrase is read as the days that its meaning is resolved to. -/
theorem readsDays_of_isSpelledBy
    (spelled : shape.IsSpelledBy phrase)
    {reference : Reference} (named : shape.reference = reference) {first after : Int}
    (bounded : ∀ bound,
      reference.resolve? now bound = toInt64? (now.daysBound first after bound)) :
    ReadsDays now (phrase ++ rest) rest first after := by
  constructor
  · intro nanos left
    rw [readBound_eq_ok_iff_of_isSpelledBy spelled named, bounded, toInt64?_eq_some_iff,
      Instant.daysBound]
    constructor
    · rintro ⟨⟨fits, rfl⟩, same⟩
      exact ⟨fits, rfl, same⟩
    · rintro ⟨fits, rfl, same⟩
      exact ⟨⟨fits, rfl⟩, same⟩
  · intro nanos left
    rw [readBound_eq_ok_iff_of_isSpelledBy spelled named, bounded, toInt64?_eq_some_iff,
      Instant.daysBound]
    constructor
    · rintro ⟨⟨fits, rfl⟩, same⟩
      exact ⟨fits, Int.sub_add_cancel _ _, same⟩
    · rintro ⟨fits, last, same⟩
      obtain rfl : nanos = now.dayStart after - 1 := by omega
      exact ⟨⟨fits, rfl⟩, same⟩

/-! ## Months by name -/

/--
A month by its name is read as the days from its first one on, so many as its year gives it,
and they are over when the present month begins.  From it on there are as many months of its
name before the present one as were counted.
-/
theorem readBound_monthName
    {index : Fin 12} {count : Int} (positive : 1 ≤ count)
    (named : shape.reference = .back (.monthName index) count)
    (spelled : shape.IsSpelledBy phrase) :
    ∃ first : Date,
      first.month = index.val + 1 ∧ first.day = 1 ∧
        12 * (count - 1) < monthOfDay now.clock.day - first.monthNumber ∧
          monthOfDay now.clock.day - first.monthNumber ≤ 12 * count ∧
            ({month : Int |
                first.monthNumber ≤ month ∧ month < monthOfDay now.clock.day ∧
                  month % 12 = index.val}.ncard : Int) = count ∧
              ReadsDays now (phrase ++ rest) rest first.toDay
                  (first.toDay + daysOfMonth (isLeapYear first.year) first.month) ∧
                now.dayStart (first.toDay + daysOfMonth (isLeapYear first.year) first.month) ≤
                  now.dayStart (monthStart (monthOfDay now.clock.day)) := by
  rcases exists_monthName now index positive with
    ⟨first, isNamed, isFirst, more, most, bounded⟩
  have sameName : first.monthNumber % 12 = index.val := by
    simp only [Date.monthNumber, isNamed]
    omega
  have isOver : first.monthNumber + 1 ≤ monthOfDay now.clock.day := by omega
  have ended : monthStart (first.monthNumber + 1) =
      monthStart first.monthNumber + daysOfMonth (isLeapYear first.year) first.month :=
    Date.monthStart_monthNumber_add_one (by omega) (by omega)
  refine ⟨first, isNamed, isFirst, more, most, ?_⟩
  rw [Date.toDay_of_day_eq_one isFirst, ← ended]
  exact ⟨ncard_months sameName (by omega) more most,
    readsDays_of_isSpelledBy spelled named bounded, now.dayStart_mono (monthStart_mono isOver)⟩

/-- The first hour of 1 March 2024 on a clock that is nearly six hours ahead. -/
def earlyMarch : Instant :=
  .ofEpoch 1709232300 0 20700

/-- The tokens of `last february`. -/
def lastFebruaryTokens : List Token :=
  [⟨.last, .relative, "last", ⟨0, 4⟩⟩, ⟨.february, .months, "february", ⟨5, 13⟩⟩]

/--
On the clock it is March already, so the last February is the one of the leap year 2024, from
its first day to its twenty-ninth.
-/
theorem readBound_lastFebruary :
    readBound earlyMarch .opening lastFebruaryTokens = .ok 1706724900000000000 [] ∧
      readBound earlyMarch .closing lastFebruaryTokens = .ok 1709230499999999999 [] ∧
        ∃ first : Date,
          first.month = 2 ∧ first.day = 1 ∧
            1706724900000000000 = earlyMarch.dayStart first.toDay ∧
              0 < monthOfDay earlyMarch.clock.day - first.monthNumber ∧
                monthOfDay earlyMarch.clock.day - first.monthNumber ≤ 12 ∧
                  1709230499999999999 + 1 = earlyMarch.dayStart
                    (first.toDay + daysOfMonth (isLeapYear first.year) first.month) := by
  have spelled : (Shape.last (.monthName 1)).IsSpelledBy lastFebruaryTokens := by
    decide
  have opened : readBound earlyMarch .opening (lastFebruaryTokens ++ []) =
      .ok 1706724900000000000 [] := by
    rfl
  have closed : readBound earlyMarch .closing (lastFebruaryTokens ++ []) =
      .ok 1709230499999999999 [] := by
    rfl
  rcases readBound_monthName (by decide) rfl spelled with
    ⟨first, isNamed, isFirst, more, most, -, days, -⟩
  rcases (days.opening _ _).1 opened with ⟨-, opens, -⟩
  rcases (days.closing _ _).1 closed with ⟨-, closes, -⟩
  exact ⟨opened, closed, first, isNamed, isFirst, opens, more, most, closes⟩

/-! ## Weekdays -/

/--
A weekday is read as one day of its name, which is one of the last seven days, today among
them, or one of the seven days before those where the count is above one.
-/
theorem readBound_weekday
    {index : Fin 7} {count : Int}
    (named : shape.reference = .back (.weekday index) count)
    (spelled : shape.IsSpelledBy phrase) :
    ∃ back,
      (count ≤ 1 → 0 ≤ back ∧ back ≤ 6) ∧ (1 < count → 7 ≤ back ∧ back ≤ 13) ∧
        FallsOn (Date.ofDay (now.clock.day - back)) index ∧
          ReadsDays now (phrase ++ rest) rest (now.clock.day - back)
            (now.clock.day - back + 1) := by
  rcases exists_weekday now index count with ⟨back, one, more, falls, bounded⟩
  exact ⟨back, one, more, (fallsOn_ofDay_iff _ index).2 falls,
    readsDays_of_isSpelledBy spelled named bounded⟩

/-- An evening of 1969, on a clock that is eight hours behind; elsewhere the epoch has begun. -/
def lastEvening : Instant :=
  .ofEpoch 27000 0 (-28800)

/-- Two Thursdays back from a Wednesday it is the eighteenth, not Christmas. -/
theorem readBound_thursdaysAgo :
    readBound lastEvening .opening (agoTokens "2" "thursdays" .thursday .weekdays) =
        .ok (-1180800000000000) [] ∧
      readBound lastEvening .closing (agoTokens "2" "thursdays" .thursday .weekdays) =
        .ok (-1094400000000001) [] ∧
        ∃ back,
          7 ≤ back ∧ back ≤ 13 ∧ FallsOn (Date.ofDay (lastEvening.clock.day - back)) 3 ∧
            -1180800000000000 = lastEvening.dayStart (lastEvening.clock.day - back) ∧
              -1094400000000001 + 1 =
                lastEvening.dayStart (lastEvening.clock.day - back + 1) := by
  have spelled : (Shape.ago 2 (.weekday 3)).IsSpelledBy
      (agoTokens "2" "thursdays" .thursday .weekdays) := by
    decide +kernel
  have opened : readBound lastEvening .opening
      (agoTokens "2" "thursdays" .thursday .weekdays ++ []) = .ok (-1180800000000000) [] := by
    rfl
  have closed : readBound lastEvening .closing
      (agoTokens "2" "thursdays" .thursday .weekdays ++ []) = .ok (-1094400000000001) [] := by
    rfl
  rcases readBound_weekday rfl spelled with ⟨back, -, more, falls, days⟩
  rcases more (by decide) with ⟨low, high⟩
  rcases (days.opening _ _).1 opened with ⟨-, opens, -⟩
  rcases (days.closing _ _).1 closed with ⟨-, closes, -⟩
  exact ⟨opened, closed, back, low, high, falls, opens, closes⟩

/-! ## Calendar units -/

/--
Days, weeks and fortnights lead to the same time of the clock on the day that lies so far back.
Months, quarters, years and centuries lead to a midnight of the clock: that of the day of the
same number in the month that lies so far back, or of its last day if it is shorter.
-/
theorem readBound_calendarUnit
    {unit : CalendarUnit} {count : Int}
    (named : shape.reference = .back (.calendar unit) count)
    (spelled : shape.IsSpelledBy phrase) {opening : Int} {left : List Token}
    (opened : readBound now .opening (phrase ++ rest) = .ok opening left) :
    (∀ days, (unit, days) ∈ CalendarUnit.dayLengths →
        ∃ moment : Moment,
          moment.day = now.clock.day - days * count ∧
            moment.secondOfDay = now.clock.secondOfDay ∧ moment.nanos = now.clock.nanos ∧
              opening = Instant.totalNanos { now with clock := moment }) ∧
      ∀ months, (unit, months) ∈ CalendarUnit.monthLengths →
        ∃ date : Date,
          date.IsValid ∧ date.monthNumber = monthOfDay now.clock.day - months * count ∧
            date.day =
                min (Date.ofDay now.clock.day).day
                  (daysOfMonth (isLeapYear date.year) date.month) ∧
              opening = now.dayStart date.toDay := by
  have resolved := resolve?_of_readBound_of_isSpelledBy spelled named opened
  constructor
  · intro days listed
    have isDays : unit.period = .days days :=
      CalendarUnit.period_of_mem_dayLengths (unit, days) listed
    exact exists_moment_of_resolve?_days isDays resolved
  · intro months listed
    have isMonths : unit.period = .months months :=
      CalendarUnit.period_of_mem_monthLengths (unit, months) listed
    exact exists_date_of_resolve?_months isMonths resolved

/-- A quarter of a second within the leap second of 2016, on a clock five hours behind. -/
def leapEvening : Instant :=
  .ofEpoch 1483228799 1250000000 (-18000)

/--
A fortnight before the last evening of 2016 the clock shows the same time, leap second and all.
The month two quarters before has no thirty-first day, so they lead to 30 June.
-/
theorem readBound_quartersAgo :
    (readBound leapEvening .opening (agoTokens "1" "fortnight" .fortnight .calendar) =
          .ok 1482019200250000000 [] ∧
        ∃ moment : Moment,
          moment.day = leapEvening.clock.day - 14 * 1 ∧
            moment.secondOfDay = leapEvening.clock.secondOfDay ∧
              moment.nanos = leapEvening.clock.nanos ∧
                1482019200250000000 = Instant.totalNanos { leapEvening with clock := moment }) ∧
      readBound leapEvening .opening (agoTokens "2" "quarters" .quarter .calendars) =
          .ok 1467262800000000000 [] ∧
        ∃ date : Date,
          date.IsValid ∧ date.monthNumber = monthOfDay leapEvening.clock.day - 3 * 2 ∧
            date.day =
                min (Date.ofDay leapEvening.clock.day).day
                  (daysOfMonth (isLeapYear date.year) date.month) ∧
              1467262800000000000 = leapEvening.dayStart date.toDay := by
  have spelledFortnight : (Shape.ago 1 (.calendar .fortnight)).IsSpelledBy
      (agoTokens "1" "fortnight" .fortnight .calendar) := by
    decide +kernel
  have openedFortnight : readBound leapEvening .opening
      (agoTokens "1" "fortnight" .fortnight .calendar ++ []) = .ok 1482019200250000000 [] := by
    rfl
  have spelledQuarters : (Shape.ago 2 (.calendar .quarter)).IsSpelledBy
      (agoTokens "2" "quarters" .quarter .calendars) := by
    decide +kernel
  have openedQuarters : readBound leapEvening .opening
      (agoTokens "2" "quarters" .quarter .calendars ++ []) = .ok 1467262800000000000 [] := by
    rfl
  have fortnight := (readBound_calendarUnit rfl spelledFortnight openedFortnight).1 14
    (by decide)
  have quarters := (readBound_calendarUnit rfl spelledQuarters openedQuarters).2 3 (by decide)
  exact ⟨⟨openedFortnight, fortnight⟩, openedQuarters, quarters⟩

/-! ## Clock units -/

/--
Seconds are counted from the present itself.  So many minutes or hours back lies one instant,
and the latest whole minute or hour of the clock that is not after it is where they open.
-/
theorem readBound_clockUnit
    (ordinary : now.clock.IsOrdinary) {unit : ClockUnit} {count : Int} (nonnegative : 0 ≤ count)
    (named : shape.reference = .back (.clock unit) count)
    (spelled : shape.IsSpelledBy phrase) {opening : Int} {left : List Token}
    (opened : readBound now .opening (phrase ++ rest) = .ok opening left) :
    (unit = .second → opening = now.totalNanos - count * secondNanos) ∧
      (unit ≠ .second →
        ∀ instant,
          instant = opening ↔
            unit.nanos ∣ instant + now.offset * secondNanos ∧
              instant ≤ now.totalNanos - count * unit.nanos ∧
                now.totalNanos - count * unit.nanos < instant + unit.nanos) := by
  have resolved := resolve?_of_readBound_of_isSpelledBy spelled named opened
  have cut := add_offset_of_resolve?_clock ordinary nonnegative resolved
  rw [Instant.totalNanos]
  constructor
  · rintro rfl
    simp only [ClockUnit.floor, ClockUnit.nanos, ClockUnit.seconds, Int.one_mul] at cut
    omega
  · intro minutes instant
    have latest :=
      ClockUnit.eq_floor_iff minutes (instant + now.offset * secondNanos)
        (now.clock.totalNanos - count * unit.nanos)
    rw [← cut] at latest
    constructor
    · rintro rfl
      rcases latest.1 rfl with ⟨whole, before, after⟩
      exact ⟨whole, by omega, by omega⟩
    · rintro ⟨whole, before, after⟩
      have same := latest.2 ⟨whole, by omega, by omega⟩
      omega

/-- A part of a second after the hundredth one before the epoch, at an odd offset. -/
def oddMorning : Instant :=
  .ofEpoch (-100) 250000000 20713

/-- An hour before 5:43 the clock shows 4:43, and the hour that it is in started at four. -/
theorem readBound_hourAgo :
    readBound oddMorning .opening (agoTokens "1" "hour" .hour .clock) =
        .ok (-6313000000000) [] ∧
      (ClockUnit.nanos .hour ∣ -6313000000000 + oddMorning.offset * secondNanos ∧
        -6313000000000 ≤ oddMorning.totalNanos - 1 * ClockUnit.nanos .hour ∧
          oddMorning.totalNanos - 1 * ClockUnit.nanos .hour <
            -6313000000000 + ClockUnit.nanos .hour) := by
  have spelled : (Shape.ago 1 (.clock .hour)).IsSpelledBy
      (agoTokens "1" "hour" .hour .clock) := by
    decide +kernel
  have opened : readBound oddMorning .opening (agoTokens "1" "hour" .hour .clock ++ []) =
      .ok (-6313000000000) [] := by
    rfl
  have latest := (readBound_clockUnit (by decide) (by decide) rfl spelled opened).2
    (by decide)
  exact ⟨opened, (latest _).1 rfl⟩

end FindQuery.Grammar
