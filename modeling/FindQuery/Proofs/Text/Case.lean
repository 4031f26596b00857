import FindQuery.Proofs.Text.Letter
import FindQuery.Text.Bytes
import Mathlib.Data.List.TakeWhile

/-!
# Texts that differ in letter case

Upper case changes the 26 small ASCII letters and nothing else.  A function of characters
ignores case when it gives every small letter what it gives its capital; what such functions
find in a text, they find at the same places of the text in upper case.
-/

namespace FindQuery.Text

/-! ## Characters -/

/-- The small ASCII letters one by one. -/
def smallLetters : List Char :=
  (List.range' 97 26).map Char.ofNat

/-- Upper case leaves every character alone that is no small ASCII letter. -/
theorem toUpper_eq_self_or_mem_smallLetters (character : Char) :
    character.toUpper = character ∨ character ∈ smallLetters := by
  by_cases small : 97 ≤ character.toNat ∧ character.toNat ≤ 122
  · right
    apply List.mem_map.2
    refine ⟨character.toNat, ?_, Char.ofNat_toNat character⟩
    exact List.mem_range'_1.2 ⟨small.1, by omega⟩
  · left
    apply Char.toNat_inj.1
    rw [toNat_toUpper, if_neg small]

/-- A function that does not tell a small ASCII letter from its capital. -/
def IgnoresCase {Result : Type} (f : Char → Result) : Prop :=
  ∀ character : Char, f character.toUpper = f character

/-- Only the small letters have to be tried. -/
theorem ignoresCase_of_smallLetters
    {Result : Type} [DecidableEq Result] {f : Char → Result}
    (each : (smallLetters.all fun letter => f letter.toUpper == f letter) = true) :
    IgnoresCase f := by
  intro character
  rcases toUpper_eq_self_or_mem_smallLetters character with same | small
  · rw [same]
  · exact eq_of_beq (List.all_eq_true.1 each character small)

theorem IgnoresCase.comp_toUpper
    {Result : Type} {f : Char → Result} (ignores : IgnoresCase f) :
    f ∘ Char.toUpper = f :=
  funext ignores

theorem ignoresCase_toUpper : IgnoresCase Char.toUpper :=
  ignoresCase_of_smallLetters (by decide)

theorem ignoresCase_utf8Size : IgnoresCase Char.utf8Size :=
  ignoresCase_of_smallLetters (by decide)

theorem ignoresCase_isWordCharacter : IgnoresCase isWordCharacter :=
  ignoresCase_of_smallLetters (by decide)

theorem ignoresCase_foldCase : IgnoresCase foldCase :=
  ignoresCase_of_smallLetters (by decide)

theorem ignoresCase_isLetterForm : IgnoresCase isLetterForm := by
  intro character
  rw [isLetterForm, isLetterForm, ignoresCase_foldCase]

/-- A character that comes of no other one in upper case. -/
def IsCaseless (character : Char) : Prop :=
  ∀ other : Char, other.toUpper = character ↔ other = character

/-- All characters but the ASCII letters are without case. -/
theorem isCaseless_of_isAlpha {character : Char} (noLetter : character.isAlpha = false) :
    IsCaseless character := by
  have letters : (smallLetters.all fun letter =>
      letter.toUpper.isAlpha && letter.isAlpha) = true := by
    decide
  intro other
  rcases toUpper_eq_self_or_mem_smallLetters other with same | small
  · rw [same]
  · rcases Bool.and_eq_true_iff.1 (List.all_eq_true.1 letters other small) with
      ⟨capital, letter⟩
    constructor
    · rintro rfl
      exact absurd capital (ne_true_of_eq_false noLetter)
    · rintro rfl
      exact absurd letter (ne_true_of_eq_false noLetter)

theorem IsCaseless.toUpper_eq {character : Char} (caseless : IsCaseless character) :
    character.toUpper = character :=
  (caseless character).2 rfl

theorem IsCaseless.map_eq_some_iff
    {character : Char} (caseless : IsCaseless character) (found : Option Char) :
    found.map Char.toUpper = some character ↔ found = some character := by
  cases found with
  | none => simp
  | some other => simpa using caseless other

theorem IsCaseless.ignoresCase_bne {character : Char} (caseless : IsCaseless character) :
    IgnoresCase (· != character) := by
  intro other
  rw [Bool.eq_iff_iff, bne_iff_ne, bne_iff_ne]
  exact not_congr (caseless other)

/-! ## Texts -/

@[simp]
theorem asciiUpper_nil : asciiUpper [] = [] := rfl

@[simp]
theorem asciiUpper_cons (first : Char) (rest : List Char) :
    asciiUpper (first :: rest) = first.toUpper :: asciiUpper rest := rfl

@[simp]
theorem length_asciiUpper (text : List Char) : (asciiUpper text).length = text.length :=
  List.length_map Char.toUpper

@[simp]
theorem take_asciiUpper (count : Nat) (text : List Char) :
    (asciiUpper text).take count = asciiUpper (text.take count) :=
  List.map_take.symm

@[simp]
theorem drop_asciiUpper (count : Nat) (text : List Char) :
    (asciiUpper text).drop count = asciiUpper (text.drop count) :=
  List.map_drop.symm

@[simp]
theorem asciiUpper_asciiUpper (text : List Char) :
    asciiUpper (asciiUpper text) = asciiUpper text := by
  rw [asciiUpper, asciiUpper, List.map_map, ignoresCase_toUpper.comp_toUpper]

@[simp]
theorem byteLength_asciiUpper (text : List Char) :
    byteLength (asciiUpper text) = byteLength text := by
  induction text with
  | nil => rfl
  | cons first rest hypothesis =>
      simp only [asciiUpper_cons, byteLength_cons, hypothesis, ignoresCase_utf8Size first]

theorem map_asciiUpper
    {Result : Type} {f : Char → Result} (ignores : IgnoresCase f) (text : List Char) :
    (asciiUpper text).map f = text.map f := by
  rw [asciiUpper, List.map_map, ignores.comp_toUpper]

/-- A run of a class that ignores case is the same run in upper case. -/
theorem takeWhile_asciiUpper
    {p : Char → Bool} (ignores : IgnoresCase p) (text : List Char) :
    (asciiUpper text).takeWhile p = asciiUpper (text.takeWhile p) := by
  rw [asciiUpper, List.takeWhile_map, ignores.comp_toUpper, asciiUpper]

@[simp]
theorem endsWord_asciiUpper (text : List Char) : endsWord (asciiUpper text) = endsWord text := by
  cases text with
  | nil => rfl
  | cons next later => rw [asciiUpper_cons, endsWord, endsWord, ignoresCase_isWordCharacter]

theorem head?_asciiUpper_eq_iff
    {character : Char} (caseless : IsCaseless character) (text : List Char) :
    (asciiUpper text).head? = some character ↔ text.head? = some character := by
  rw [asciiUpper, List.head?_map, caseless.map_eq_some_iff]

theorem getLast?_asciiUpper_eq_iff
    {character : Char} (caseless : IsCaseless character) (text : List Char) :
    (asciiUpper text).getLast? = some character ↔ text.getLast? = some character := by
  rw [asciiUpper, List.getLast?_map, caseless.map_eq_some_iff]

/-- A character without case stands in a text in upper case where it stands in the text. -/
theorem mem_asciiUpper_iff
    {character : Char} (caseless : IsCaseless character) (text : List Char) :
    character ∈ asciiUpper text ↔ character ∈ text := by
  induction text with
  | nil => rfl
  | cons first rest hypothesis =>
      rw [asciiUpper_cons, List.mem_cons, List.mem_cons, hypothesis, eq_comm, caseless first,
        eq_comm]

/-- Characters without case start a text in upper case where they start the text. -/
theorem isPrefixOf_asciiUpper
    {word : List Char} (caseless : ∀ part ∈ word, IsCaseless part) (text : List Char) :
    word.isPrefixOf (asciiUpper text) = word.isPrefixOf text := by
  induction word generalizing text with
  | nil => simp
  | cons part others hypothesis =>
      rcases List.forall_mem_cons.1 caseless with ⟨here, later⟩
      cases text with
      | nil => rfl
      | cons first rest =>
          have head : (part == first.toUpper) = (part == first) := by
            rw [Bool.eq_iff_iff, beq_iff_eq, beq_iff_eq, eq_comm, here first, eq_comm]
          rw [asciiUpper_cons, List.isPrefixOf, List.isPrefixOf, head, hypothesis later]

/-! ## Texts equal but for case -/

/-- Texts that differ in the case of ASCII letters and in nothing else. -/
def SameButCase (text other : List Char) : Prop :=
  asciiUpper text = asciiUpper other

instance (text other : List Char) : Decidable (SameButCase text other) :=
  inferInstanceAs (Decidable (_ = _))

end FindQuery.Text
