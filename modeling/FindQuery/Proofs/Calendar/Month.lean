import FindQuery.Calendar.Month

/-!
# Months and days in order

Months start one after the other, 28 to 31 days apart, and every day lies in exactly
one of them.  A later day therefore has no earlier month, and moving two days by the
same number of months keeps their order, although the day of the month is cut to the
length of the target.
-/

namespace FindQuery.Calendar

/-! ## The start of a month -/

/-- The months of a year have 28 to 31 days. -/
theorem daysBeforeMonth_bounds
    (leap : Bool) {index : Int} (low : 0 ≤ index) (high : index < 12) :
    daysBeforeMonth leap index + 28 ≤ daysBeforeMonth leap (index + 1) ∧
      daysBeforeMonth leap (index + 1) ≤ daysBeforeMonth leap index + 31 := by
  have table : ∀ (leap : Bool) (place : Fin 12),
      daysBeforeMonth leap (place.val : Int) + 28 ≤ daysBeforeMonth leap (place.val + 1) ∧
        daysBeforeMonth leap (place.val + 1) ≤ daysBeforeMonth leap (place.val : Int) + 31 := by
    decide
  rcases Int.eq_ofNat_of_zero_le low with ⟨place, rfl⟩
  exact table leap ⟨place, by omega⟩

/-- After its twelfth month a year is over. -/
theorem yearStart_add_one (year : Int) :
    yearStart (year + 1) = yearStart year + daysBeforeMonth (isLeapYear year) 12 := by
  rw [yearStart_succ]
  cases isLeapYear year <;> rfl

/-- The start of a month told by its year and its place in the year. -/
theorem monthStart_add (year : Int) {index : Int} (low : 0 ≤ index) (high : index < 12) :
    monthStart (12 * year + index) =
      yearStart year + daysBeforeMonth (isLeapYear year) index := by
  have sameYear : (12 * year + index) / 12 = year := by omega
  have sameIndex : (12 * year + index) % 12 = index := by omega
  rw [monthStart, sameYear, sameIndex]

/-- A month ends where the next one starts, also in December. -/
theorem monthStart_add_one (year : Int) {index : Int} (low : 0 ≤ index) (high : index < 12) :
    monthStart (12 * year + index + 1) =
      yearStart year + daysBeforeMonth (isLeapYear year) (index + 1) := by
  by_cases december : index = 11
  · subst december
    have january : monthStart (12 * (year + 1) + 0) =
        yearStart (year + 1) + daysBeforeMonth (isLeapYear (year + 1)) 0 :=
      monthStart_add (year + 1) (by omega) (by omega)
    have nothing : daysBeforeMonth (isLeapYear (year + 1)) 0 = 0 := rfl
    have same : 12 * year + 11 + 1 = 12 * (year + 1) + 0 := by omega
    have twelve : (11 : Int) + 1 = 12 := rfl
    rw [same, january, nothing, yearStart_add_one, twelve]
    omega
  · rw [Int.add_assoc]
    exact monthStart_add year (by omega) (by omega)

theorem monthLength_bounds (month : Int) :
    28 ≤ monthLength month ∧ monthLength month ≤ 31 := by
  obtain ⟨year, index, low, high, rfl⟩ :
      ∃ year index, 0 ≤ index ∧ index < 12 ∧ month = 12 * year + index :=
    ⟨month / 12, month % 12, by omega, by omega, by omega⟩
  have bounds := daysBeforeMonth_bounds (isLeapYear year) low high
  rw [monthLength, monthStart_add_one year low high, monthStart_add year low high]
  omega

/-- Each month starts after the one before it. -/
theorem monthStart_lt_add_one (month : Int) :
    monthStart month < monthStart (month + 1) := by
  have bounds := monthLength_bounds month
  rw [monthLength] at bounds
  omega

theorem monthStart_mono {month later : Int} (order : month ≤ later) :
    monthStart month ≤ monthStart later := by
  rcases Int.le.dest order with ⟨count, rfl⟩
  induction count with
  | zero => simp
  | succ count hypothesis =>
      have next := monthStart_lt_add_one (month + count)
      have below := hypothesis (by omega)
      have same : month + ((count + 1 : Nat) : Int) = month + count + 1 := by omega
      rw [same]
      omega

/-! ## The month of a day -/

/-- The place of a month in the year is found from the day of the year. -/
theorem daysBeforeMonth_monthIndexOf
    (leap : Bool) {dayOfYear : Int} (low : 0 ≤ dayOfYear)
    (high : dayOfYear < if leap then 366 else 365) :
    0 ≤ monthIndexOf leap dayOfYear ∧ monthIndexOf leap dayOfYear < 12 ∧
      daysBeforeMonth leap (monthIndexOf leap dayOfYear) ≤ dayOfYear ∧
        dayOfYear < daysBeforeMonth leap (monthIndexOf leap dayOfYear + 1) := by
  rw [monthIndexOf, daysBeforeMonth, daysBeforeMonth]
  cases leap with
  | false =>
      simp only [Bool.false_eq_true, if_false] at high ⊢
      split
      · refine ⟨by omega, by omega, ?_, ?_⟩
        · split <;> omega
        · split <;> omega
      · refine ⟨by omega, by omega, ?_, ?_⟩
        · split <;> omega
        · split <;> omega
  | true =>
      simp only [if_true] at high ⊢
      split
      · refine ⟨by omega, by omega, ?_, ?_⟩
        · split <;> omega
        · split <;> omega
      · refine ⟨by omega, by omega, ?_, ?_⟩
        · split <;> omega
        · split <;> omega

/-- A day lies in its month. -/
theorem monthStart_monthOfDay_le (day : Int) :
    monthStart (monthOfDay day) ≤ day ∧ day < monthStart (monthOfDay day + 1) := by
  rcases yearStart_yearOfDay_le day with ⟨started, ended⟩
  rw [yearStart_succ] at ended
  rw [monthOfDay]
  generalize yearOfDay day = year at *
  have first : 0 ≤ day - yearStart year := by omega
  have last : day - yearStart year < if isLeapYear year then 366 else 365 := by omega
  rcases daysBeforeMonth_monthIndexOf (isLeapYear year) first last with ⟨low, high, before, after⟩
  rw [monthStart_add year low high, monthStart_add_one year low high]
  omega

theorem monthOfDay_mono {day later : Int} (order : day ≤ later) :
    monthOfDay day ≤ monthOfDay later := by
  by_cases earlier : monthOfDay later < monthOfDay day
  · have started := (monthStart_monthOfDay_le day).1
    have ended := (monthStart_monthOfDay_le later).2
    have months : monthStart (monthOfDay later + 1) ≤ monthStart (monthOfDay day) :=
      monthStart_mono (by omega)
    omega
  · omega

/-! ## Moves by whole months -/

/-- A move by months ends in the target month. -/
theorem addMonths_bounds (day count : Int) :
    monthStart (monthOfDay day + count) ≤ addMonths day count ∧
      addMonths day count < monthStart (monthOfDay day + count + 1) := by
  have started := (monthStart_monthOfDay_le day).1
  have bounds := monthLength_bounds (monthOfDay day + count)
  rw [addMonths]
  rw [monthLength] at *
  omega

/-- More months lead to a later month, wherever in it the day is cut. -/
theorem addMonths_lt_addMonths (day : Int) {count more : Int} (order : count < more) :
    addMonths day count < addMonths day more := by
  have ended := (addMonths_bounds day count).2
  have started := (addMonths_bounds day more).1
  have between : monthStart (monthOfDay day + count + 1) ≤ monthStart (monthOfDay day + more) :=
    monthStart_mono (by omega)
  omega

theorem addMonths_zero (day : Int) : addMonths day 0 = day := by
  have started := (monthStart_monthOfDay_le day).1
  have ended := (monthStart_monthOfDay_le day).2
  rw [addMonths, monthLength, Int.add_zero]
  omega

theorem addMonths_mono {day later : Int} (order : day ≤ later) (count : Int) :
    addMonths day count ≤ addMonths later count := by
  have months := monthOfDay_mono order
  -- In one month both days are cut to the same length; otherwise the targets are months apart.
  by_cases same : monthOfDay day = monthOfDay later
  · rw [addMonths, addMonths]
    simp only [same]
    omega
  · have ended := (addMonths_bounds day count).2
    have started := (addMonths_bounds later count).1
    have between : monthStart (monthOfDay day + count + 1) ≤
        monthStart (monthOfDay later + count) :=
      monthStart_mono (by omega)
    omega

end FindQuery.Calendar
