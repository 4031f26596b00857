import FindQuery.Text.LetterCase
import FindQuery.Text.WordCharacter

/-!
# Case forms of letters

A character is a case form of an ASCII letter when it is one of the 52 letters,
the long s or the Kelvin sign.  Each case form is a word character, so the letters
of a reserved word never end inside a longer run of case forms.
-/

namespace FindQuery.Text

/-- Whether a character is a case form of an ASCII letter. -/
def isLetterForm (character : Char) : Bool :=
  (foldCase character).isUpper

/-! ## Code points -/

theorem isUpper_iff (character : Char) :
    character.isUpper = true ↔ 65 ≤ character.toNat ∧ character.toNat ≤ 90 := by
  show decide ('A'.val ≤ character.val ∧ character.val ≤ 'Z'.val) = true ↔ _
  simp only [decide_eq_true_eq, UInt32.le_iff_toNat_le]
  exact Iff.rfl

theorem isLower_iff (character : Char) :
    character.isLower = true ↔ 97 ≤ character.toNat ∧ character.toNat ≤ 122 := by
  show ('a'.val ≤ character.val && character.val ≤ 'z'.val) = true ↔ _
  simp only [Bool.and_eq_true, decide_eq_true_eq, UInt32.le_iff_toNat_le]
  exact Iff.rfl

theorem isDigit_iff (character : Char) :
    character.isDigit = true ↔ 48 ≤ character.toNat ∧ character.toNat ≤ 57 := by
  show ('0'.val ≤ character.val && character.val ≤ '9'.val) = true ↔ _
  simp only [Bool.and_eq_true, decide_eq_true_eq, UInt32.le_iff_toNat_le]
  exact Iff.rfl

/-- Upper case moves the small ASCII letters down by 32 and nothing else. -/
theorem toNat_toUpper (character : Char) :
    character.toUpper.toNat =
      if 97 ≤ character.toNat ∧ character.toNat ≤ 122 then
        character.toNat - 32
      else
        character.toNat := by
  have small : ('a'.val ≤ character.val ∧ character.val ≤ 'z'.val) ↔
      (97 ≤ character.toNat ∧ character.toNat ≤ 122) := by
    simp only [UInt32.le_iff_toNat_le]
    exact Iff.rfl
  by_cases isSmall : 'a'.val ≤ character.val ∧ character.val ≤ 'z'.val
  · have bounds := small.1 isSmall
    have shift : ('A'.val - 'a'.val).toNat = 4294967264 := by decide
    have shifted : character.toUpper = ⟨character.val + ('A'.val - 'a'.val), _⟩ :=
      dif_pos isSmall
    rw [if_pos bounds, shifted]
    show (character.val + ('A'.val - 'a'.val)).toNat = character.toNat - 32
    rw [UInt32.toNat_add, shift]
    show (character.toNat + 4294967264) % 4294967296 = _
    omega
  · have kept : character.toUpper = character := dif_neg isSmall
    rw [if_neg (mt small.2 isSmall), kept]

/-! ## Letters -/

/-- The case forms are the ASCII letters, the long s and the Kelvin sign. -/
theorem isLetterForm_iff (character : Char) :
    isLetterForm character = true ↔
      (65 ≤ character.toNat ∧ character.toNat ≤ 90) ∨
        (97 ≤ character.toNat ∧ character.toNat ≤ 122) ∨
          character = longS ∨ character = kelvinSign := by
  rw [isLetterForm, isUpper_iff, foldCase]
  by_cases long : character = longS
  · subst long
    decide
  · by_cases kelvin : character = kelvinSign
    · subst kelvin
      decide
    · simp only [long, kelvin, if_false, or_false, toNat_toUpper]
      split <;> omega

theorem inRanges_letterRanges_of_ascii :
    ∀ point < 128, (65 ≤ point ∧ point ≤ 90) ∨ (97 ≤ point ∧ point ≤ 122) →
      inRanges letterRanges point = true := by
  decide

theorem isWordCharacter_of_isLetterForm
    {character : Char} (letter : isLetterForm character = true) :
    isWordCharacter character = true := by
  rcases (isLetterForm_iff character).1 letter with upper | lower | rfl | rfl
  · have inTable := inRanges_letterRanges_of_ascii character.toNat (by omega) (.inl upper)
    simp [isWordCharacter, inTable]
  · have inTable := inRanges_letterRanges_of_ascii character.toNat (by omega) (.inr lower)
    simp [isWordCharacter, inTable]
  · decide
  · decide +kernel

/-- Folding leaves a character alone that is neither of the two forms beyond ASCII. -/
theorem foldCase_eq_toUpper
    {character : Char} (notLong : character ≠ longS) (notKelvin : character ≠ kelvinSign) :
    foldCase character = character.toUpper := by
  simp [foldCase, notLong, notKelvin]

/-! ## Ends of words -/

/-- A class of word characters does not go on where a word can end. -/
theorem head?_eq_false_of_endsWord
    {p : Char → Bool}
    (within : ∀ {character}, p character = true → isWordCharacter character = true)
    {text : List Char} (ended : endsWord text = true) :
    ∀ next ∈ text.head?, p next = false := by
  intro next atHead
  rcases List.head?_eq_some_iff.1 atHead with ⟨later, rfl⟩
  rw [← Bool.not_eq_true]
  intro inside
  rw [endsWord, within inside] at ended
  cases ended

end FindQuery.Text
