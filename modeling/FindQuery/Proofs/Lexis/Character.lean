import FindQuery.Proofs.Lexis.Rule
import FindQuery.Text.Blank
import FindQuery.Token

/-!
# Classes of characters

The first character of a lexeme often tells its class, because the classes of
characters that lexemes start with exclude one another.  The ASCII classes are
compared code point by code point, and a sign is told by its spelling.
-/

namespace FindQuery.Lexis

open FindQuery.Text

/-! ## Code points of names -/

theorem isNameStart_iff (character : Char) :
    isNameStart character = true ↔
      (65 ≤ character.toNat ∧ character.toNat ≤ 90) ∨
        (97 ≤ character.toNat ∧ character.toNat ≤ 122) ∨ character = '_' := by
  show (character.isUpper || character.isLower || character == '_') = true ↔ _
  rw [Bool.or_eq_true, Bool.or_eq_true, isUpper_iff, isLower_iff, beq_iff_eq, or_assoc]

/-- The leading word of a name is made of ASCII letters, ASCII digits and underscores. -/
theorem isPlainWordCharacter_iff (character : Char) :
    isPlainWordCharacter character = true ↔
      (65 ≤ character.toNat ∧ character.toNat ≤ 90) ∨
        (97 ≤ character.toNat ∧ character.toNat ≤ 122) ∨
          (48 ≤ character.toNat ∧ character.toNat ≤ 57) ∨ character = '_' := by
  show (character.isUpper || character.isLower || character.isDigit || character == '_') = true ↔ _
  rw [Bool.or_eq_true, Bool.or_eq_true, Bool.or_eq_true, isUpper_iff, isLower_iff, isDigit_iff,
    beq_iff_eq, or_assoc, or_assoc]

/-- The characters of a name are those of its leading word and three signs. -/
theorem isNamePart_iff (character : Char) :
    isNamePart character = true ↔
      isPlainWordCharacter character = true ∨
        character = '.' ∨ character = '@' ∨ character = '$' := by
  simp only [isNamePart, isPlainWordCharacter, Bool.or_eq_true, beq_iff_eq, or_assoc]

theorem isNamePart_of_isNameStart
    {character : Char} (starts : isNameStart character = true) :
    isNamePart character = true := by
  rw [isNamePart_iff, isPlainWordCharacter_iff]
  rcases (isNameStart_iff character).1 starts with upper | lower | underscore
  · exact .inl (.inl upper)
  · exact .inl (.inr (.inl lower))
  · exact .inl (.inr (.inr (.inr underscore)))

theorem isDecimalDigit_of_ascii
    {character : Char} (digit : 48 ≤ character.toNat ∧ character.toNat ≤ 57) :
    isDecimalDigit character = true := by
  have notBelow : ¬ character.toNat < 48 := Nat.not_lt.2 digit.1
  simp [isDecimalDigit, decimalDigitRanges, inRanges, notBelow, digit.2]

theorem isWordCharacter_of_isPlainWordCharacter
    {character : Char} (plain : isPlainWordCharacter character = true) :
    isWordCharacter character = true := by
  rcases (isPlainWordCharacter_iff character).1 plain with upper | lower | digit | rfl
  · exact isWordCharacter_of_isLetterForm ((isLetterForm_iff character).2 (.inl upper))
  · exact isWordCharacter_of_isLetterForm ((isLetterForm_iff character).2 (.inr (.inl lower)))
  · exact isWordCharacter_of_isDecimalDigit (isDecimalDigit_of_ascii digit)
  · decide

/-- The letters of a name are ASCII letters, which fold as the table of spellings does. -/
theorem foldCase_of_isNamePart
    {character : Char} (part : isNamePart character = true) :
    foldCase character = character.toUpper := by
  apply foldCase_eq_toUpper
  · rintro rfl
    revert part
    decide
  · rintro rfl
    revert part
    decide

/-- A letter of a name belongs to its leading word. -/
theorem isPlainWordCharacter_of_isLetterForm
    {character : Char} (part : isNamePart character = true)
    (letter : isLetterForm character = true) :
    isPlainWordCharacter character = true := by
  rw [isNamePart_iff] at part
  rcases part with plain | rfl | rfl | rfl
  · exact plain
  · revert letter
    decide
  · revert letter
    decide
  · revert letter
    decide

/-! ## Characters that exclude one another -/

/-- No literal starts as a sign does. -/
theorem literalStart_of_isSignStart
    {character : Char} (starts : isSignStart character = true) :
    isNameStart character = false ∧ isDecimalDigit character = false ∧
      isQuote character = false ∧ character ≠ '[' ∧ character ≠ '.' := by
  have table : ∀ sign ∈ signs, (sign.2.toList.head?.all fun first =>
      !isNameStart first && !isDecimalDigit first && !isQuote first && first != '[' &&
        first != '.') = true := by
    decide
  rcases List.any_eq_true.1 starts with ⟨sign, member, atHead⟩
  have excluded := table sign member
  rw [beq_iff_eq.1 atHead] at excluded
  simpa [and_assoc] using excluded

theorem isDecimalPoint_eq_false_of_letter :
    ∀ point < 128, (65 ≤ point ∧ point ≤ 90) ∨ (97 ≤ point ∧ point ≤ 122) →
      inRanges decimalDigitRanges point = false := by
  decide

theorem isLetterForm_eq_false_of_isDecimalDigit
    {character : Char} (digit : isDecimalDigit character = true) :
    isLetterForm character = false := by
  rw [← Bool.not_eq_true, isLetterForm_iff]
  rintro (upper | lower | rfl | rfl)
  · have none := isDecimalPoint_eq_false_of_letter character.toNat (by omega) (.inl upper)
    exact absurd digit (ne_true_of_eq_false none)
  · have none := isDecimalPoint_eq_false_of_letter character.toNat (by omega) (.inr lower)
    exact absurd digit (ne_true_of_eq_false none)
  · revert digit
    decide
  · revert digit
    decide

theorem isNameStart_eq_false_of_isDecimalDigit
    {character : Char} (digit : isDecimalDigit character = true) :
    isNameStart character = false := by
  rw [← Bool.not_eq_true, isNameStart_iff]
  rintro (upper | lower | rfl)
  · have none := isDecimalPoint_eq_false_of_letter character.toNat (by omega) (.inl upper)
    exact absurd digit (ne_true_of_eq_false none)
  · have none := isDecimalPoint_eq_false_of_letter character.toNat (by omega) (.inr lower)
    exact absurd digit (ne_true_of_eq_false none)
  · revert digit
    decide

/-! ## Blanks -/

/-- The blanks one by one. -/
def blanks : List Char :=
  blankRanges.flatMap fun range =>
    (List.range' range.1 (range.2 + 1 - range.1)).map Char.ofNat

theorem mem_blanks_of_isBlank {character : Char} (blank : isBlank character = true) :
    character ∈ blanks := by
  rcases exists_of_inRanges blank with ⟨range, member, low, high⟩
  apply List.mem_flatMap.2
  refine ⟨range, member, List.mem_map.2 ⟨character.toNat, ?_, Char.ofNat_toNat character⟩⟩
  apply List.mem_range'_1.2
  omega

/-- A class that leaves out the blanks has characters that are none. -/
theorem isBlank_eq_false_of_class
    {p : Char → Bool} (outside : blanks.any p = false)
    {character : Char} (inside : p character = true) :
    isBlank character = false := by
  rw [← Bool.not_eq_true]
  intro blank
  have found := List.any_eq_true.2 ⟨character, mem_blanks_of_isBlank blank, inside⟩
  rw [outside] at found
  cases found

theorem isBlank_eq_false_of_isNameStart
    {character : Char} (starts : isNameStart character = true) :
    isBlank character = false :=
  isBlank_eq_false_of_class (by decide) starts

theorem isBlank_eq_false_of_isLetterForm
    {character : Char} (letter : isLetterForm character = true) :
    isBlank character = false :=
  isBlank_eq_false_of_class (by decide) letter

/-! ## Quotes and slashes -/

theorem isQuote_iff (character : Char) :
    isQuote character = true ↔ character = '\'' ∨ character = '"' := by
  rw [isQuote, Bool.or_eq_true, beq_iff_eq, beq_iff_eq]

theorem isBlank_eq_false_of_isQuote
    {quote : Char} (isOne : isQuote quote = true) : isBlank quote = false :=
  isBlank_eq_false_of_class (by decide) isOne

/-- A quote or a slash, the characters that quoted texts and comments start with. -/
def opensSegment (character : Char) : Bool :=
  isQuote character || character == '/'

/-- Quotes and slashes stand in no word, name or numeral. -/
theorem opensSegment_iff (character : Char) :
    opensSegment character = true ↔ character = '\'' ∨ character = '"' ∨ character = '/' := by
  rw [opensSegment, Bool.or_eq_true, isQuote_iff, beq_iff_eq, or_assoc]

/-- A class that leaves out quotes and slashes has characters that open no segment. -/
theorem opensSegment_eq_false
    {p : Char → Bool} (outside : p '\'' = false ∧ p '"' = false ∧ p '/' = false)
    {character : Char} (inside : p character = true) :
    opensSegment character = false := by
  rw [← Bool.not_eq_true, opensSegment_iff]
  rintro (rfl | rfl | rfl)
  · exact absurd inside (ne_true_of_eq_false outside.1)
  · exact absurd inside (ne_true_of_eq_false outside.2.1)
  · exact absurd inside (ne_true_of_eq_false outside.2.2)

end FindQuery.Lexis
