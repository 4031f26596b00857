import Mathlib.Data.List.TakeWhile

/-!
# Runs of characters

A lexeme is often the longest run of characters of one class.  Such a run is told
by what it is made of and by the character after it.
-/

namespace FindQuery.Text

/-- A run of characters of a class ends before the first character outside the class. -/
theorem takeWhile_append_of_head?
    {p : Char → Bool} {run rest : List Char}
    (inside : ∀ character ∈ run, p character = true)
    (ends : ∀ next ∈ rest.head?, p next = false) :
    (run ++ rest).takeWhile p = run := by
  rw [List.takeWhile_append_of_pos inside]
  cases rest with
  | nil => simp
  | cons next later => simp [ends next (by simp)]

theorem dropWhile_append_of_head?
    {p : Char → Bool} {run rest : List Char}
    (inside : ∀ character ∈ run, p character = true)
    (ends : ∀ next ∈ rest.head?, p next = false) :
    (run ++ rest).dropWhile p = rest := by
  have whole := List.takeWhile_append_dropWhile (p := p) (l := run ++ rest)
  rw [takeWhile_append_of_head? inside ends] at whole
  exact List.append_cancel_left whole

/-- Every text is a run of characters of a class and a rest that does not go on with it. -/
theorem exists_run (p : Char → Bool) (text : List Char) :
    ∃ run rest,
      text = run ++ rest ∧ text.takeWhile p = run ∧
        (∀ character ∈ run, p character = true) ∧
          ∀ next ∈ rest.head?, p next = false := by
  refine ⟨text.takeWhile p, text.dropWhile p, ?_, rfl, ?_, ?_⟩
  · exact List.takeWhile_append_dropWhile.symm
  · exact fun character => List.mem_takeWhile_imp
  · intro next atHead
    have stopped := List.head?_dropWhile_not p text
    rw [Option.mem_def.1 atHead] at stopped
    exact stopped

/-- A run is not changed by what follows the text unless it goes on with the run. -/
theorem takeWhile_append_eq_of_head?
    {p : Char → Bool} {rest : List Char}
    (ends : ∀ next ∈ rest.head?, p next = false) (text : List Char) :
    (text ++ rest).takeWhile p = text.takeWhile p := by
  rcases exists_run p text with ⟨run, later, rfl, taken, inside, stops⟩
  rw [taken, List.append_assoc]
  apply takeWhile_append_of_head? inside
  cases later with
  | nil => exact ends
  | cons next others => exact stops

/-- A beginning of a text and a rest is one of the text if the rest starts with a foreign one. -/
theorem prefix_append_iff_of_head?
    {piece rest : List Char} (foreign : ∀ next ∈ rest.head?, next ∉ piece)
    (text : List Char) :
    piece <+: text ++ rest ↔ piece <+: text := by
  constructor
  · intro leading
    induction text generalizing piece with
    | nil =>
        cases piece with
        | nil => exact List.nil_prefix
        | cons head tail =>
            cases rest with
            | nil => exact leading
            | cons next later =>
                have same := (List.cons_prefix_cons.1 leading).1
                exact absurd (same ▸ List.mem_cons_self) (foreign next (by simp))
    | cons first others hypothesis =>
        cases piece with
        | nil => exact List.nil_prefix
        | cons head tail =>
            rcases List.cons_prefix_cons.1 leading with ⟨same, inside⟩
            have outside : ∀ next ∈ rest.head?, next ∉ tail := fun next atHead member =>
              foreign next atHead (List.mem_cons_of_mem _ member)
            exact List.cons_prefix_cons.2 ⟨same, hypothesis outside inside⟩
  · intro leading
    exact List.prefix_append_of_prefix leading

/-! ## Enclosed texts -/

/-- A body between two characters and what follows it. -/
theorem enclosed_append (opening closing : Char) (body rest : List Char) :
    opening :: (body ++ [closing]) ++ rest = opening :: (body ++ closing :: rest) := by
  simp

theorem length_enclosed (opening closing : Char) (body : List Char) :
    (opening :: (body ++ [closing])).length = body.length + 2 := by
  simp

end FindQuery.Text
