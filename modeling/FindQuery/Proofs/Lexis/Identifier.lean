import FindQuery.Proofs.Lexis.Rereading

/-!
# Names as whole queries

The reserved words are written down twice, in the rules for words and in the table of
spellings, and the two agree on every word of ASCII letters.  A query that is a bare name is
therefore one identifier exactly when its leading word is not reserved, and one reserved word
of the kind that the table gives it when all of it is.  In brackets every name is an identifier.
-/

namespace FindQuery.Lexis

open FindQuery.Text

/-! ## Reserved words -/

/-- A spelling that starts as a name does is a word of a rule. -/
theorem wordTag?_of_mem_spellings :
    ∀ entry ∈ Keyword.spellings,
      entry.1.toList.head?.any isNameStart = true →
        entry.1.toList.all Char.isUpper = true ∧ (wordTag? entry.1.toList).isSome = true := by
  decide

theorem isNameStart_toUpper
    {character : Char} (starts : isNameStart character = true) :
    isNameStart character.toUpper = true := by
  rw [isNameStart_iff, toNat_toUpper]
  rcases (isNameStart_iff character).1 starts with upper | lower | rfl
  · rw [if_neg (by omega)]
    exact .inl upper
  · rw [if_pos lower]
    omega
  · decide

/-- A word that starts as a name does and has a kind is one of a rule, in any letter case. -/
theorem exists_wordTag?_of_kindOf?
    {first : Char} {later : List Char} (starts : isNameStart first = true)
    (known : (Keyword.kindOf? (first :: later)).isSome = true) :
    (∀ letter ∈ first :: later, letter.toUpper.isUpper = true) ∧
      ∃ tag, wordTag? (asciiUpper (first :: later)) = some tag := by
  rw [Keyword.kindOf?, Option.isSome_map, List.find?_isSome] at known
  rcases known with ⟨entry, listed, spelled⟩
  rw [beq_iff_eq] at spelled
  have leads : entry.1.toList.head?.any isNameStart = true := by
    rw [spelled]
    exact isNameStart_toUpper starts
  rcases wordTag?_of_mem_spellings entry listed leads with ⟨upper, tagged⟩
  rw [spelled] at upper tagged
  constructor
  · intro letter member
    exact List.all_eq_true.1 upper _ (List.mem_map_of_mem member)
  · exact Option.isSome_iff_exists.1 tagged

/-! ## Leading words -/

/-- The leading word of a name ends where a word can end. -/
theorem IsName.endsWord_of_head?
    {run rest : List Char} (isName : IsName (run ++ rest))
    (ends : ∀ next ∈ rest.head?, isPlainWordCharacter next = false) :
    endsWord rest = true := by
  cases rest with
  | nil => rfl
  | cons next later =>
      have part := isName.isNamePart next (List.mem_append_right run List.mem_cons_self)
      have noWord : isWordCharacter next = false := by
        rcases (isNamePart_iff next).1 part with plain | rfl | rfl | rfl
        · exact absurd plain (ne_true_of_eq_false (ends next rfl))
        · decide
        · decide
        · decide
      rw [endsWord, noWord, Bool.not_false]

/-- The leading word of a shadowed name is found by a rule for words. -/
theorem exists_wordMatch?_of_isShadowed
    {name : List Char} (isName : IsName name) (shadowed : isShadowed name = true) :
    ∃ run rest tag,
      name = run ++ rest ∧ name.takeWhile isPlainWordCharacter = run ∧
        (∀ letter ∈ run, isLetterForm letter = true) ∧
          wordTag? (run.map foldCase) = some tag ∧
            wordMatch? name = some (tag, run.length) := by
  rcases exists_run isPlainWordCharacter name with ⟨run, rest, rfl, taken, inside, ends⟩
  rw [isShadowed, taken] at shadowed
  have parts := isName.isNamePart
  have ended := isName.endsWord_of_head? ends
  have folded : run.map foldCase = asciiUpper run := by
    apply List.map_congr_left
    intro letter member
    exact foldCase_of_isNamePart (parts letter (List.mem_append_left rest member))
  have reserved : (∀ letter ∈ run, letter.toUpper.isUpper = true) ∧
      ∃ tag, wordTag? (asciiUpper run) = some tag := by
    cases run with
    | nil =>
        have unknown : Keyword.kindOf? [] = none := by decide
        rw [unknown] at shadowed
        cases shadowed
    | cons first later =>
        rcases isName with ⟨start, others, same, starts, -⟩
        cases same
        exact exists_wordTag?_of_kindOf? starts shadowed
  rcases reserved with ⟨upper, tag, tagged⟩
  have letters : ∀ letter ∈ run, isLetterForm letter = true := by
    intro letter member
    rw [isLetterForm, foldCase_of_isNamePart (parts letter (List.mem_append_left rest member))]
    exact upper letter member
  rw [← folded] at tagged
  refine ⟨run, rest, tag, rfl, taken, letters, tagged, ?_⟩
  apply (wordMatch?_eq_some_iff _ _ _).2
  rw [letterRun_append letters ended, List.drop_left]
  exact ⟨tagged, ended, rfl⟩

/-- What is read first in a shadowed name is a reserved word. -/
theorem isLiteral_eq_false_of_isShadowed
    {name : String} (isName : IsName name.toList) (shadowed : isShadowed name.toList = true)
    {first : Token} {later : List Token} (tokenized : tokenize name = .ok (first :: later)) :
    first.tag.isLiteral = false := by
  rcases exists_wordMatch?_of_isShadowed isName shadowed with
    ⟨run, rest, tag, -, -, -, tagged, matched⟩
  have visible : ∀ start ∈ name.toList.head?, isBlank start = false := by
    rcases isName with ⟨start, parts, spelled, starts, -⟩
    rw [spelled]
    rintro _ ⟨⟩
    exact isBlank_eq_false_of_isNameStart starts
  rw [tokenize_eq_ok_iff, startOf, isName.normalize_eq] at tokenized
  cases read : step ⟨0, name.toList⟩ with
  | finished =>
      rw [scan_of_finished read] at tokenized
      cases tokenized
  | fault cause offset =>
      rw [scan_of_fault read] at tokenized
      cases tokenized
  | token token after =>
      rw [scan_of_token read] at tokenized
      cases congrArg Scan.tokens tokenized
      rcases (step_eq_token_iff _ _ _).1 read with ⟨length, text, -, found, -⟩
      rw [skipBlanks_of_visible visible, firstMatch?_eq_or, matched, Option.some_or] at found
      cases found
      exact isLiteral_of_wordTag? tagged

/-! ## Names -/

/--
A bare name is one identifier exactly when its leading word is not reserved; otherwise a
reserved word is read first, and nothing else if all of the name is its leading word.  In
brackets a name is always one identifier.
-/
theorem tokenize_of_isName
    {name : String} (isName : IsName name.toList) :
    (tokenize name = .ok [⟨.literal, .ident, name, ⟨0, name.utf8ByteSize⟩⟩] ↔
        isShadowed name.toList = false) ∧
      (isShadowed name.toList = true →
        (∀ first later, tokenize name = .ok (first :: later) → first.tag.isLiteral = false) ∧
          ((∀ part ∈ name.toList, part ≠ '.' ∧ part ≠ '@' ∧ part ≠ '$') →
            ∃ kind tag,
              Keyword.ofSpelling? name = some kind ∧ tag.isLiteral = false ∧
                tokenize name = .ok [⟨kind, tag, name, ⟨0, name.utf8ByteSize⟩⟩])) ∧
        tokenize ("[" ++ name ++ "]") =
          .ok [⟨.literal, .ident, name, ⟨0, name.utf8ByteSize + 2⟩⟩] := by
  refine ⟨⟨?_, ?_⟩, ?_, ?_⟩
  · intro tokenized
    cases shadowed : isShadowed name.toList with
    | false => rfl
    | true => cases isLiteral_eq_false_of_isShadowed isName shadowed tokenized
  · intro free
    have read := tokenize_of_rereads (rereads_bare isName free)
    rwa [String.ofList_toList] at read
  · intro shadowed
    refine ⟨fun first later => isLiteral_eq_false_of_isShadowed isName shadowed, ?_⟩
    intro unmarked
    rcases exists_wordMatch?_of_isShadowed isName shadowed with
      ⟨run, rest, tag, -, taken, letters, tagged, -⟩
    have plain : ∀ part ∈ name.toList, isPlainWordCharacter part = true := by
      intro part member
      rcases unmarked part member with ⟨noPoint, noAt, noDollar⟩
      simpa [isNamePart_iff, noPoint, noAt, noDollar] using isName.isNamePart part member
    rw [List.takeWhile_eq_self_iff.2 plain] at taken
    subst taken
    rw [isShadowed, List.takeWhile_eq_self_iff.2 plain] at shadowed
    rcases Option.isSome_iff_exists.1 shadowed with ⟨kind, known⟩
    have read := tokenize_of_rereads (rereads_word letters tagged known)
    rw [String.ofList_toList] at read
    exact ⟨kind, tag, known, isLiteral_of_wordTag? tagged, read⟩
  · have spelled : ("[" ++ name ++ "]").toList = '[' :: (name.toList ++ [']']) := by
      simp
    have again := rereads_bracketed isName
    rw [← spelled] at again
    have read := tokenize_of_rereads again
    have bytes : ("[" ++ name ++ "]").utf8ByteSize = name.utf8ByteSize + 2 := by
      rw [String.utf8ByteSize_append, String.utf8ByteSize_append, Nat.add_comm "[".utf8ByteSize]
      rfl
    rwa [String.ofList_toList, bytes] at read

/--
`days_open.x` is an identifier although `days` is reserved, `Centuries` is a reserved word, and
the brackets make an identifier of `[Last.seen]`.
-/
theorem tokenize_days_open :
    tokenize "days_open.x" = .ok [⟨.literal, .ident, "days_open.x", ⟨0, 11⟩⟩] ∧
      (∃ kind tag,
        Keyword.ofSpelling? "Centuries" = some kind ∧ tag.isLiteral = false ∧
          tokenize "Centuries" = .ok [⟨kind, tag, "Centuries", ⟨0, 9⟩⟩]) ∧
        tokenize "[Last.seen]" = .ok [⟨.literal, .ident, "Last.seen", ⟨0, 11⟩⟩] := by
  have bare : IsName "days_open.x".toList :=
    ⟨'d', "ays_open.x".toList, by decide, by decide, List.all_eq_true.1 (by decide)⟩
  have reserved : IsName "Centuries".toList :=
    ⟨'C', "enturies".toList, by decide, by decide, List.all_eq_true.1 (by decide)⟩
  have bracketed : IsName "Last.seen".toList :=
    ⟨'L', "ast.seen".toList, by decide, by decide, List.all_eq_true.1 (by decide)⟩
  have shadowed : isShadowed "Centuries".toList = true := by decide +kernel
  have unmarked : ∀ part ∈ "Centuries".toList, part ≠ '.' ∧ part ≠ '@' ∧ part ≠ '$' := by
    have letters : "Centuries".toList.all Char.isAlpha = true := by decide
    intro part member
    have letter := List.all_eq_true.1 letters part member
    refine ⟨?_, ?_, ?_⟩ <;> rintro rfl <;> cases letter
  exact ⟨(tokenize_of_isName bare).1.2 (by decide +kernel),
    ((tokenize_of_isName reserved).2.1 shadowed).2 unmarked,
    (tokenize_of_isName bracketed).2.2⟩

end FindQuery.Lexis
