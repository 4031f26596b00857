import FindQuery.Proofs.Lexis.Character
import FindQuery.Proofs.Lexis.Literal

/-!
# Names and reserved words

A bare name is read as a name unless its leading word is reserved.  The rules for
words fold more case forms than the table of spellings does, but the letters of a
name are ASCII letters, on which the two agree.
-/

namespace FindQuery.Lexis

open FindQuery.Text

/-- Every spelling of a rule for words is in the table of spellings. -/
theorem exists_spelling_of_mem_wordTable :
    ∀ entry ∈ wordTable, ∀ spelling ∈ entry.2,
      ∃ known ∈ Keyword.spellings, known.1 = spelling := by
  decide

/-- A word that is a spelling of a rule in upper case has a kind. -/
theorem isSome_kindOf?_of_wordTag?
    {word : List Char} {tag : Tag} (tagged : wordTag? (asciiUpper word) = some tag) :
    (Keyword.kindOf? word).isSome = true := by
  rcases Option.map_eq_some_iff.1 tagged with ⟨entry, found, -⟩
  have listed := List.find?_some (p := fun entry : Tag × List String =>
    entry.2.any fun spelling => spelling.toList == asciiUpper word) found
  rcases List.any_eq_true.1 listed with ⟨spelling, member, same⟩
  obtain ⟨known, inTable, rfl⟩ :=
    exists_spelling_of_mem_wordTable entry (List.mem_of_find?_eq_some found) spelling member
  rw [Keyword.kindOf?, Option.isSome_map, List.find?_isSome]
  exact ⟨known, inTable, same⟩

theorem IsName.isNamePart
    {name : List Char} (isName : IsName name) :
    ∀ part ∈ name, isNamePart part = true := by
  rcases isName with ⟨first, parts, rfl, starts, inside⟩
  intro part member
  rcases List.mem_cons.1 member with rfl | inParts
  · exact isNamePart_of_isNameStart starts
  · exact inside part inParts

/-- No reserved word is found at the start of a name that is not shadowed. -/
theorem wordMatch?_of_not_isShadowed
    {name gap : List Char} (isName : IsName name) (blank : IsGap gap)
    (free : isShadowed name = false) :
    wordMatch? (name ++ gap) = none := by
  cases found : wordMatch? (name ++ gap) with
  | none => rfl
  | some pair =>
      rcases pair with ⟨tag, length⟩
      rcases (wordMatch?_eq_some_iff _ _ _).1 found with ⟨tagged, ended, -⟩
      have parts := isName.isNamePart
      rcases exists_run isLetterForm name with ⟨run, tail, rfl, taken, letters, -⟩
      have sameRun : letterRun ((run ++ tail) ++ gap) = run := by
        rw [letterRun, takeWhile_append_eq_of_head? (blank.head?_eq_false (by decide)), taken]
      rw [sameRun, List.append_assoc, List.drop_left] at ended
      rw [sameRun] at tagged
      -- The leading word of the name is exactly its run of letters.
      have word : (run ++ tail).takeWhile isPlainWordCharacter = run := by
        apply takeWhile_append_of_head?
        · intro letter member
          exact isPlainWordCharacter_of_isLetterForm
            (parts letter (List.mem_append_left _ member)) (letters letter member)
        · intro next atHead
          rcases List.head?_eq_some_iff.1 atHead with ⟨later, rfl⟩
          exact head?_eq_false_of_endsWord isWordCharacter_of_isPlainWordCharacter ended next rfl
      have folded : run.map foldCase = asciiUpper run := by
        apply List.map_congr_left
        intro letter member
        exact foldCase_of_isNamePart (parts letter (List.mem_append_left _ member))
      rw [folded] at tagged
      rw [isShadowed, word, isSome_kindOf?_of_wordTag? tagged] at free
      cases free

end FindQuery.Lexis
