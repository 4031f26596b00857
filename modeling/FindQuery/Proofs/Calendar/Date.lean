import FindQuery.Proofs.Calendar.Month
import Mathlib.Data.Set.Card

/-!
# Dates

The days of the calendar are dates, numbered one after the other.  This is said here by the
rule that everyone knows: the date after a date, the lengths of the months and the leap years.
The weekdays go on from date to date, 1 January 1970 being a Thursday.
-/

namespace FindQuery.Calendar

/-! ## Days of a month -/

/-- The days of a month of the year, January being the first, in a leap year or another. -/
def daysOfMonth (leap : Bool) : Nat → Nat
  | 2 => if leap then 29 else 28
  | 4 | 6 | 9 | 11 => 30
  | _ => 31

theorem daysOfMonth_pos (leap : Bool) (month : Nat) : 1 ≤ daysOfMonth leap month := by
  unfold daysOfMonth
  split
  · split <;> omega
  · omega
  · omega
  · omega
  · omega
  · omega

/-- A month is as long as the one of its name and its kind of year. -/
theorem monthLength_eq_daysOfMonth
    (year : Int) {month : Nat} (first : 1 ≤ month) (last : month ≤ 12) :
    monthLength (12 * year + ((month : Int) - 1)) = daysOfMonth (isLeapYear year) month := by
  have table : ∀ (leap : Bool) (place : Fin 12),
      daysBeforeMonth leap (place.val + 1) - daysBeforeMonth leap (place.val : Int) =
        daysOfMonth leap (place.val + 1) := by
    decide
  obtain ⟨place, rfl⟩ : ∃ place, month = place + 1 := ⟨month - 1, by omega⟩
  have sameIndex : ((place + 1 : Nat) : Int) - 1 = place := by omega
  have length := table (isLeapYear year) ⟨place, by omega⟩
  have low : (0 : Int) ≤ place := by omega
  have high : (place : Int) < 12 := by omega
  simp only at length
  rw [monthLength, sameIndex, monthStart_add_one year low high, monthStart_add year low high]
  omega

/-- A day has the month in which it lies. -/
theorem monthOfDay_eq_iff (day month : Int) :
    monthOfDay day = month ↔ monthStart month ≤ day ∧ day < monthStart (month + 1) := by
  have inside := monthStart_monthOfDay_le day
  constructor
  · rintro rfl
    exact inside
  · rintro ⟨started, ended⟩
    by_contra other
    rcases Int.lt_or_gt_of_ne other with earlier | later
    · have between : monthStart (monthOfDay day + 1) ≤ monthStart month :=
        monthStart_mono (by omega)
      omega
    · have between : monthStart (month + 1) ≤ monthStart (monthOfDay day) :=
        monthStart_mono (by omega)
      omega

/-- A move by months goes from the first day of a month to the first day of another. -/
theorem addMonths_monthStart (month count : Int) :
    addMonths (monthStart month) count = monthStart (month + count) := by
  have length := (monthLength_bounds (month + count)).1
  have same : monthOfDay (monthStart month) = month := by
    rw [monthOfDay_eq_iff]
    exact ⟨Int.le_refl _, monthStart_lt_add_one month⟩
  rw [addMonths, same]
  omega

namespace Date

/-! ## The date after a date -/

/-- The date after a date. -/
def next (date : Date) : Date :=
  if date.day < daysOfMonth (isLeapYear date.year) date.month then
    { date with day := date.day + 1 }
  else if date.month < 12 then
    ⟨date.year, date.month + 1, 1⟩
  else
    ⟨date.year + 1, 1, 1⟩

/-- A valid date has one of the days that its month has. -/
theorem isValid_iff (date : Date) :
    date.IsValid ↔
      1 ≤ date.month ∧ date.month ≤ 12 ∧ 1 ≤ date.day ∧
        date.day ≤ daysOfMonth (isLeapYear date.year) date.month := by
  rw [IsValid, monthNumber]
  constructor
  · rintro ⟨first, last, started, ended⟩
    rw [monthLength_eq_daysOfMonth date.year first last] at ended
    exact ⟨first, last, started, by omega⟩
  · rintro ⟨first, last, started, ended⟩
    rw [monthLength_eq_daysOfMonth date.year first last]
    exact ⟨first, last, started, by omega⟩

theorem isValid_next {date : Date} (valid : date.IsValid) : date.next.IsValid := by
  rw [isValid_iff] at valid ⊢
  rcases valid with ⟨first, last, started, ended⟩
  rw [next]
  split
  · rename_i within
    exact ⟨first, last, Nat.le_add_left _ _, within⟩
  · split
    · rename_i within
      exact ⟨Nat.le_add_left _ _, within, Nat.le_refl _, daysOfMonth_pos _ _⟩
    · exact ⟨Nat.le_refl _, show 1 ≤ 12 by decide, Nat.le_refl _, daysOfMonth_pos _ _⟩

theorem toDay_of_day_eq_one {date : Date} (first : date.day = 1) :
    date.toDay = monthStart date.monthNumber := by
  rw [toDay, first]
  omega

/-- The month after that of a date starts when its days are over. -/
theorem monthStart_monthNumber_add_one
    {date : Date} (first : 1 ≤ date.month) (last : date.month ≤ 12) :
    monthStart (date.monthNumber + 1) =
      monthStart date.monthNumber + daysOfMonth (isLeapYear date.year) date.month := by
  have length : monthStart (date.monthNumber + 1) - monthStart date.monthNumber =
      daysOfMonth (isLeapYear date.year) date.month :=
    monthLength_eq_daysOfMonth date.year first last
  omega

/-- The days of the calendar are numbered date by date. -/
theorem toDay_next {date : Date} (valid : date.IsValid) : date.next.toDay = date.toDay + 1 := by
  rcases (isValid_iff date).1 valid with ⟨first, last, started, ended⟩
  have afterMonth := monthStart_monthNumber_add_one first last
  rw [next]
  split
  · simp only [toDay, monthNumber]
    omega
  · split
    · have following : monthNumber ⟨date.year, date.month + 1, 1⟩ = date.monthNumber + 1 := by
        simp only [monthNumber]
        omega
      rw [toDay, toDay, following]
      simp only
      omega
    · have following : monthNumber ⟨date.year + 1, 1, 1⟩ = date.monthNumber + 1 := by
        simp only [monthNumber]
        omega
      rw [toDay, toDay, following]
      simp only
      omega

/-! ## The date of a day -/

theorem monthNumber_ofDay (day : Int) : (ofDay day).monthNumber = monthOfDay day := by
  simp only [monthNumber, ofDay]
  omega

theorem isValid_ofDay (day : Int) : (ofDay day).IsValid := by
  rcases monthStart_monthOfDay_le day with ⟨started, ended⟩
  rw [IsValid, monthNumber_ofDay, monthLength]
  simp only [ofDay]
  omega

theorem toDay_ofDay (day : Int) : (ofDay day).toDay = day := by
  have started := (monthStart_monthOfDay_le day).1
  rw [toDay, monthNumber_ofDay]
  simp only [ofDay]
  omega

theorem ofDay_toDay {date : Date} (valid : date.IsValid) : ofDay date.toDay = date := by
  rcases valid with ⟨first, last, started, ended⟩
  rw [monthLength] at ended
  have month : monthOfDay date.toDay = date.monthNumber := by
    rw [monthOfDay_eq_iff, toDay]
    omega
  rw [ofDay, month, toDay]
  rcases date with ⟨year, month, day⟩
  simp only [monthNumber, mk.injEq] at *
  omega

theorem ofDay_add_one (day : Int) : ofDay (day + 1) = (ofDay day).next := by
  have valid := isValid_ofDay day
  have following := toDay_next valid
  rw [toDay_ofDay] at following
  rw [← following, ofDay_toDay (isValid_next valid)]

end Date

/-! ## Moves by months -/

/--
A move by months leads into the target month, to the day of the same number or to the last day
of a month that is shorter.
-/
theorem exists_date_of_addMonths (day count : Int) :
    ∃ date : Date,
      date.IsValid ∧ date.monthNumber = monthOfDay day + count ∧
        date.day = min (Date.ofDay day).day (daysOfMonth (isLeapYear date.year) date.month) ∧
          date.toDay = addMonths day count := by
  have valid := Date.isValid_ofDay (addMonths day count)
  have number := Date.monthNumber_ofDay (addMonths day count)
  have named := Date.toDay_ofDay (addMonths day count)
  generalize Date.ofDay (addMonths day count) = date at valid number named
  rw [(monthOfDay_eq_iff _ _).2 (addMonths_bounds day count)] at number
  have length : monthLength date.monthNumber = daysOfMonth (isLeapYear date.year) date.month :=
    monthLength_eq_daysOfMonth date.year valid.1 valid.2.1
  refine ⟨date, valid, number, ?_, named⟩
  have started := (monthStart_monthOfDay_le day).1
  have positive := daysOfMonth_pos (isLeapYear date.year) date.month
  rw [Date.toDay, addMonths, ← number, length] at named
  simp only [Date.ofDay]
  omega

/-! ## Weekdays -/

/--
The weekday of a date, counted from Monday: 1 January 1970 is a Thursday, and the weekdays go
on from date to date, in either direction.
-/
inductive FallsOn : Date → Fin 7 → Prop where
  | epoch :
      FallsOn ⟨1970, 1, 1⟩ 3
  | next
      {date : Date} {weekday : Fin 7}
      (falls : FallsOn date weekday) :
      FallsOn date.next (weekday + 1)
  | previous
      {date : Date} {weekday : Fin 7}
      (valid : date.IsValid)
      (falls : FallsOn date.next (weekday + 1)) :
      FallsOn date weekday

theorem FallsOn.isValid_and_weekdayOf
    {date : Date} {weekday : Fin 7} (falls : FallsOn date weekday) :
    date.IsValid ∧ weekdayOf date.toDay = weekday.val := by
  induction falls with
  | epoch => decide
  | next falls hypothesis =>
      rcases hypothesis with ⟨valid, told⟩
      refine ⟨Date.isValid_next valid, ?_⟩
      rw [Date.toDay_next valid, weekdayOf, Fin.val_add]
      rw [weekdayOf] at told
      omega
  | previous valid falls hypothesis =>
      have told := hypothesis.2
      refine ⟨valid, ?_⟩
      rw [Date.toDay_next valid, weekdayOf, Fin.val_add] at told
      rw [weekdayOf]
      omega

/-- A weekday is told from the number of the day. -/
theorem fallsOn_ofDay_iff (day : Int) (weekday : Fin 7) :
    FallsOn (Date.ofDay day) weekday ↔ weekdayOf day = weekday.val := by
  constructor
  · intro falls
    have told := falls.isValid_and_weekdayOf.2
    rwa [Date.toDay_ofDay] at told
  · intro told
    induction day using Int.induction_on generalizing weekday with
    | zero =>
        obtain rfl : weekday = 3 := by
          apply Fin.ext
          simp only [weekdayOf] at told
          omega
        exact .epoch
    | succ day hypothesis =>
        have everyday : ∀ weekday : Fin 7, ∃ before, before + 1 = weekday := by
          decide
        rcases everyday weekday with ⟨before, rfl⟩
        rw [weekdayOf, Fin.val_add] at told
        rw [Date.ofDay_add_one]
        apply FallsOn.next
        apply hypothesis
        rw [weekdayOf]
        omega
    | pred day hypothesis =>
        have following : (-(day : Int) - 1) + 1 = -(day : Int) := by omega
        rw [weekdayOf] at told
        apply FallsOn.previous (Date.isValid_ofDay _)
        rw [← Date.ofDay_add_one, following]
        apply hypothesis
        rw [weekdayOf, Fin.val_add]
        omega

/-! ## Months of one name -/

/-- The months of one name lie twelve months apart. -/
theorem ncard_months
    {first stop index count : Int} (named : first % 12 = index) (nonnegative : 0 ≤ count)
    (more : 12 * (count - 1) < stop - first) (most : stop - first ≤ 12 * count) :
    ({month : Int | first ≤ month ∧ month < stop ∧ month % 12 = index}.ncard : Int) = count := by
  have months : {month : Int | first ≤ month ∧ month < stop ∧ month % 12 = index} =
      Set.image (fun year : Nat => first + 12 * (year : Int)) (Finset.range count.toNat) := by
    ext month
    simp only [Set.mem_ofPred_eq, Set.mem_image, Finset.mem_coe, Finset.mem_range]
    constructor
    · rintro ⟨started, ended, sameName⟩
      exact ⟨((month - first) / 12).toNat, by omega, by omega⟩
    · rintro ⟨year, within, rfl⟩
      omega
  have apart : Function.Injective fun year : Nat => first + 12 * (year : Int) := by
    intro year other same
    simp only at same
    omega
  rw [months, Set.ncard_image_of_injective _ apart, Set.ncard_coe_finset, Finset.card_range]
  omega

end FindQuery.Calendar
