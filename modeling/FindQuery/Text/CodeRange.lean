/-!
# Classes of characters given by ranges of code points

A property of characters that no formula gives is written as a table: inclusive
ranges of code points in ascending order.  `inRanges` searches such a table and
gives up at the first range that starts above the character, so a character low
in the table is decided after few comparisons.
-/

namespace FindQuery.Text

/-- An inclusive range of code points, first and last. -/
abbrev CodeRange : Type := Nat × Nat

/-- Whether a code point lies in one of the ranges of an ascending table. -/
def inRanges : List CodeRange → Nat → Bool
  | [], _ => false
  | (first, last) :: later, point =>
      if point < first then
        false
      else
        point ≤ last || inRanges later point

@[simp]
theorem inRanges_nil (point : Nat) : inRanges [] point = false := rfl

/-- A code point of some range of the table is found only inside that range. -/
theorem exists_of_inRanges
    {table : List CodeRange} {point : Nat}
    (found : inRanges table point = true) :
    ∃ range ∈ table, range.1 ≤ point ∧ point ≤ range.2 := by
  induction table with
  | nil => simp at found
  | cons head later hypothesis =>
      obtain ⟨first, last⟩ := head
      unfold inRanges at found
      split at found
      · cases found
      · rename_i notBelow
        simp only [Bool.or_eq_true, decide_eq_true_eq] at found
        rcases found with inHead | inLater
        · exact ⟨(first, last), by simp, by omega, inHead⟩
        · obtain ⟨range, member, bounds⟩ := hypothesis inLater
          exact ⟨range, by simp [member], bounds⟩

end FindQuery.Text
