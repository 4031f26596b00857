import FindQuery.Proofs.Lexis.Name
import FindQuery.Proofs.Lexis.Rereading

/-!
# Reserved words without a spelling

The rules for words count the long s and the Kelvin sign as case forms of letters,
the table of spellings does not.  A reserved word written with one of the two is
therefore recognised and then found to have no kind.  Nothing else has a rule and no
kind.
-/

namespace FindQuery.Lexis

open FindQuery.Text

/-- Whether a character is one of the two case forms beyond ASCII. -/
def IsForeignForm (character : Char) : Prop :=
  character = longS ∨ character = kelvinSign

instance (character : Char) : Decidable (IsForeignForm character) :=
  inferInstanceAs (Decidable (_ ∨ _))

/-- A reserved word stands at the start of the text, one of its letters beyond ASCII. -/
def StartsWithUnspelled (text : List Char) : Prop :=
  (wordMatch? text).isSome = true ∧ ∃ letter ∈ letterRun text, IsForeignForm letter

instance (text : List Char) : Decidable (StartsWithUnspelled text) :=
  inferInstanceAs (Decidable (_ ∧ _))

theorem foreign_notMem_spellings :
    ∀ entry ∈ Keyword.spellings, longS ∉ entry.1.toList ∧ kelvinSign ∉ entry.1.toList := by
  decide

/-- A letter beyond ASCII is left as it is where the table is searched. -/
theorem toUpper_of_isForeignForm
    {character : Char} (foreign : IsForeignForm character) :
    character.toUpper = character := by
  rcases foreign with rfl | rfl <;> decide

theorem kindOf?_eq_none_of_isForeignForm
    {text : List Char} {letter : Char} (member : letter ∈ text)
    (foreign : IsForeignForm letter) :
    Keyword.kindOf? text = none := by
  rw [Keyword.kindOf?, Option.map_eq_none_iff, List.find?_eq_none]
  intro entry inTable same
  have spelled := beq_iff_eq.1 same
  have inSpelling : letter ∈ entry.1.toList := by
    rw [spelled, asciiUpper, ← toUpper_of_isForeignForm foreign]
    exact List.mem_map_of_mem member
  rcases foreign_notMem_spellings entry inTable with ⟨noLong, noKelvin⟩
  rcases foreign with rfl | rfl
  · exact noLong inSpelling
  · exact noKelvin inSpelling

/-- A word that a rule recognises has a kind exactly when its letters are ASCII letters. -/
theorem kindOf?_eq_none_iff_of_wordTag?
    {word : List Char} {tag : Tag} (tagged : wordTag? (word.map foldCase) = some tag) :
    Keyword.kindOf? word = none ↔ ∃ letter ∈ word, IsForeignForm letter := by
  constructor
  · intro unknown
    by_contra allKnown
    have folded : word.map foldCase = asciiUpper word := by
      apply List.map_congr_left
      intro letter member
      apply foldCase_eq_toUpper
      · exact fun long => allKnown ⟨letter, member, .inl long⟩
      · exact fun kelvin => allKnown ⟨letter, member, .inr kelvin⟩
    rw [folded] at tagged
    have known := isSome_kindOf?_of_wordTag? tagged
    rw [unknown] at known
    cases known
  · rintro ⟨letter, member, foreign⟩
    exact kindOf?_eq_none_of_isForeignForm member foreign

theorem isSome_kindOf?_of_mem_signs :
    ∀ sign ∈ signs, (Keyword.kindOf? sign.2.toList).isSome = true := by
  decide

theorem isSome_interpret?_of_isLiteral
    {tag : Tag} (literal : tag.isLiteral = true) (lexeme : List Char) :
    (interpret? tag lexeme).isSome = true := by
  cases tag <;> first | rfl | cases literal

theorem isLiteral_of_literalMatch?
    {text : List Char} {tag : Tag} {length : Nat}
    (found : literalMatch? text = some (tag, length)) :
    tag.isLiteral = true := by
  rcases exists_rule_of_literalMatch? found with ⟨pattern, member, -⟩
  simp only [literalRules, List.mem_cons, List.not_mem_nil, or_false, Rule.mk.injEq] at member
  rcases member with ⟨rfl, -⟩ | ⟨rfl, -⟩ | ⟨rfl, -⟩ | ⟨rfl, -⟩ <;> rfl

/-- A lexeme has a rule and no kind exactly when it is a word without a spelling. -/
theorem interpret?_eq_none_iff
    {text : List Char} {tag : Tag} {length : Nat}
    (found : firstMatch? text = some (tag, length)) :
    interpret? tag (text.take length) = none ↔ StartsWithUnspelled text := by
  rw [firstMatch?_eq_or, Option.or_eq_some_iff] at found
  rcases found with word | ⟨noWord, other⟩
  · rcases (wordMatch?_eq_some_iff _ _ _).1 word with ⟨tagged, ended, rfl⟩
    rw [take_length_letterRun, interpret?_of_isLiteral (isLiteral_of_wordTag? tagged),
      Option.map_eq_none_iff, kindOf?_eq_none_iff_of_wordTag? tagged]
    simp [StartsWithUnspelled, word]
  · have known : (interpret? tag (text.take length)).isSome = true := by
      rw [Option.or_eq_some_iff] at other
      rcases other with sign | ⟨-, literal⟩
      · rcases exists_sign_of_signMatch? sign with ⟨spelled, member, rest, rfl, rfl, rfl⟩
        rw [List.take_left, interpret?_of_isLiteral (isLiteral_of_mem_signs spelled member),
          Option.isSome_map]
        exact isSome_kindOf?_of_mem_signs spelled member
      · exact isSome_interpret?_of_isLiteral (isLiteral_of_literalMatch? literal) _
    constructor
    · intro unknown
      rw [unknown] at known
      cases known
    · rintro ⟨isWord, -⟩
      rw [noWord] at isWord
      cases isWord

/-- A step finds a word without a spelling exactly where one stands after the blanks. -/
theorem exists_step_unknownSymbol_iff (position : Position) :
    (∃ tag lexeme offset, step position = .fault (.unknownSymbol tag lexeme) offset) ↔
      StartsWithUnspelled position.skipBlanks.rest := by
  constructor
  · rintro ⟨tag, lexeme, offset, failed⟩
    rcases (step_eq_fault_iff _ _ _).1 failed with
      ⟨-, -, ⟨-, noRule⟩ | ⟨found, length, matched, unknown, -⟩⟩
    · cases noRule
    · exact (interpret?_eq_none_iff matched).1 unknown
  · intro unspelled
    rcases Option.isSome_iff_exists.1 unspelled.1 with ⟨⟨tag, length⟩, word⟩
    have matched : firstMatch? position.skipBlanks.rest = some (tag, length) := by
      rw [firstMatch?_eq_or, word, Option.some_or]
    have nonempty : position.skipBlanks.rest ≠ [] := by
      intro nothing
      rcases unspelled.2 with ⟨letter, member, -⟩
      rw [nothing] at member
      cases member
    refine ⟨tag, String.ofList (position.skipBlanks.rest.take length),
      position.skipBlanks.offset, ?_⟩
    apply (step_eq_fault_iff _ _ _).2
    exact ⟨nonempty, rfl,
      .inr ⟨tag, length, matched, (interpret?_eq_none_iff matched).2 unspelled, rfl⟩⟩

/-- Where a scan comes to a word without a spelling. -/
def MeetsUnspelled (query : String) : Prop :=
  ∃ position,
    Reaches (startOf query) position ∧ StartsWithUnspelled position.skipBlanks.rest

/-- Cutting a query into tokens ends in an internal error exactly at such a word. -/
theorem exists_internal_tokenize_iff (query : String) :
    (∃ error, tokenize query = .error error ∧ error.cause.isInternal = true) ↔
      MeetsUnspelled query := by
  constructor
  · rintro ⟨error, failed, internal⟩
    rcases (tokenize_eq_error_iff query error).1 failed with ⟨cause, offset, faulty, rfl⟩
    rcases (fault?_scan_eq_some_iff _ _ _).1 faulty with ⟨position, reached, failedThere⟩
    cases cause with
    | noMatch => cases internal
    | unknownSymbol tag lexeme =>
        exact ⟨position, reached,
          (exists_step_unknownSymbol_iff position).1 ⟨tag, lexeme, offset, failedThere⟩⟩
  · rintro ⟨position, reached, unspelled⟩
    rcases (exists_step_unknownSymbol_iff position).2 unspelled with ⟨tag, lexeme, offset, failed⟩
    have faulty := (fault?_scan_eq_some_iff _ _ _).2 ⟨position, reached, failed⟩
    refine ⟨errorOf query (.unknownSymbol tag lexeme) offset, ?_, rfl⟩
    exact (tokenize_eq_error_iff _ _).2 ⟨_, _, faulty, rfl⟩

end FindQuery.Lexis
