import FindQuery.Number.Digits
import FindQuery.Proofs.Text.Run
import Mathlib.Algebra.Group.Nat.Defs

/-!
# Numbers in a fixed count of digits

The fields of a date or a time have leading zeros, so that each has as many digits as any
other of its kind.  A number that does not need more digits reads back from so many, and they
are cut from what follows them by their count alone.
-/

namespace FindQuery.Number

open FindQuery.Text

/-- The last digits of a number, a fixed count of them. -/
def padded : Nat → Nat → List Char
  | 0, _ => []
  | count + 1, number => padded count (number / 10) ++ [digitOf (number % 10)]

@[simp]
theorem length_padded (count number : Nat) : (padded count number).length = count := by
  induction count generalizing number with
  | zero => rfl
  | succ count hypothesis => rw [padded, List.length_append, hypothesis, List.length_singleton]

theorem isDigit_digitOf {number : Nat} (small : number < 10) :
    (digitOf number).isDigit = true := by
  have each : ∀ digit < 10, (digitOf digit).isDigit = true := by
    decide
  exact each number small

theorem isDigit_of_mem_padded {count number : Nat} :
    ∀ digit ∈ padded count number, digit.isDigit = true := by
  induction count generalizing number with
  | zero => simp [padded]
  | succ count hypothesis =>
      intro digit member
      rcases List.mem_append.1 member with leading | last
      · exact hypothesis digit leading
      · rw [List.mem_singleton.1 last]
        exact isDigit_digitOf (Nat.mod_lt _ (by decide))

/-- A number that has no more digits reads back. -/
theorem digitsValue_padded {count number : Nat} (small : number < 10 ^ count) :
    digitsValue (padded count number) = number := by
  induction count generalizing number with
  | zero =>
      rw [pow_zero] at small
      simp only [padded, digitsValue, digitsValueFrom_nil]
      omega
  | succ count hypothesis =>
      have leading : number / 10 < 10 ^ count := by
        rw [pow_succ] at small
        omega
      have read := hypothesis leading
      rw [digitsValue] at read ⊢
      rw [padded, digitsValueFrom_append, read, digitsValueFrom_cons, digitsValueFrom_nil,
        digitValue_digitOf (Nat.mod_lt _ (by decide))]
      omega

/-- A number in some digits starts with one. -/
theorem exists_padded_append (count number : Nat) (rest : List Char) :
    ∃ first later,
      padded (count + 1) number ++ rest = first :: later ∧ first.isDigit = true := by
  cases written : padded (count + 1) number with
  | nil => simp [padded] at written
  | cons first others =>
      have member : first ∈ padded (count + 1) number := by simp [written]
      exact ⟨first, others ++ rest, rfl, isDigit_of_mem_padded first member⟩

/-! ## Cutting digits off -/

theorem takeWhile_take_padded (count number : Nat) (rest : List Char) :
    ((padded count number ++ rest).take count).takeWhile Char.isDigit = padded count number := by
  rw [List.take_left' (length_padded count number), List.takeWhile_eq_self_iff]
  exact isDigit_of_mem_padded

theorem drop_padded (count number : Nat) (rest : List Char) :
    (padded count number ++ rest).drop count = rest :=
  List.drop_left' (length_padded count number)

/-- Of a longer run of digits there are only so many before a sign. -/
theorem takeWhile_take_padded_of_lt
    {count most : Nat} (short : count < most) (number : Nat) {sign : Char}
    (stops : sign.isDigit = false) (rest : List Char) :
    ((padded count number ++ sign :: rest).take most).takeWhile Char.isDigit =
      padded count number := by
  obtain ⟨left, enough⟩ : ∃ left, most - count = left + 1 := ⟨most - count - 1, by omega⟩
  have whole : (padded count number).take most = padded count number :=
    List.take_of_length_le (by rw [length_padded]; omega)
  rw [List.take_append, whole, length_padded, enough, List.take_succ_cons]
  exact takeWhile_append_of_head? isDigit_of_mem_padded (by simp [stops])

end FindQuery.Number
