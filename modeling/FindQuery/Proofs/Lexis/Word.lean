import FindQuery.Lexis.Rule
import FindQuery.Proofs.Text.Letter
import FindQuery.Proofs.Text.Run

/-!
# Reserved words

A rule for words tries its spellings one by one, yet what it finds depends on two
things only: the run of case forms of letters at the start of the text, folded to
upper case, and whether a word can end after that run.  `wordAhead?` computes the
folded run, and `wordMatch?` is what all the rules for words make of it together.
-/

namespace FindQuery.Lexis

open FindQuery.Text

/-- The case forms of letters at the start of a text. -/
def letterRun (text : List Char) : List Char :=
  text.takeWhile isLetterForm

theorem take_length_letterRun (text : List Char) :
    text.take (letterRun text).length = letterRun text := by
  rcases exists_run isLetterForm text with ⟨run, rest, rfl, same, -, -⟩
  rw [letterRun, same, List.take_left]

/-- Letters before a place where a word can end make up the run of letters. -/
theorem letterRun_append
    {word rest : List Char}
    (letters : ∀ character ∈ word, isLetterForm character = true)
    (ended : endsWord rest = true) :
    letterRun (word ++ rest) = word := by
  apply takeWhile_append_of_head? letters
  exact head?_eq_false_of_endsWord isWordCharacter_of_isLetterForm ended

/-- A word in upper case stands at the start of a text iff it is the whole folded run. -/
theorem startsWithFolded_and_endsWord_iff
    {word : List Char} (upper : ∀ letter ∈ word, letter.isUpper = true)
    (text : List Char) :
    (startsWithFolded word text && endsWord (text.drop word.length)) = true ↔
      (letterRun text).map foldCase = word ∧
        endsWord (text.drop (letterRun text).length) = true := by
  rw [Bool.and_eq_true, startsWithFolded_iff]
  constructor
  · rintro ⟨folded, ended⟩
    have letters : ∀ character ∈ text.take word.length, isLetterForm character = true := by
      intro character member
      apply upper
      rw [← folded]
      exact List.mem_map_of_mem member
    have run : letterRun text = text.take word.length := by
      have whole := letterRun_append letters ended
      rwa [List.take_append_drop] at whole
    have size : (letterRun text).length = word.length := by
      rw [run, ← List.length_map (f := foldCase), folded]
    rw [size]
    exact ⟨run ▸ folded, ended⟩
  · rintro ⟨folded, ended⟩
    have size : word.length = (letterRun text).length := by
      rw [← folded, List.length_map]
    rw [size, take_length_letterRun]
    exact ⟨folded, ended⟩

/-- The word at the start of a text in upper case, `none` where no word can end. -/
def wordAhead? (text : List Char) : Option (List Char) :=
  if endsWord (text.drop (letterRun text).length) then
    some ((letterRun text).map foldCase)
  else
    none

theorem wordAhead?_eq_some_iff (text word : List Char) :
    wordAhead? text = some word ↔
      (letterRun text).map foldCase = word ∧
        endsWord (text.drop (letterRun text).length) = true := by
  rw [wordAhead?]
  split
  · rename_i ended
    simp [ended]
  · rename_i notOver
    simp [notOver]

/-! ## The rules for words -/

/-- The tags of the rules for words and the spellings of each. -/
def wordTable : List (Tag × List String) :=
  rules.filterMap fun rule =>
    match rule.pattern with
    | .word spellings => some (rule.tag, spellings)
    | _ => none

/-- The tag of the first rule for words that has a given spelling. -/
def wordTag? (word : List Char) : Option Tag :=
  (wordTable.find? fun entry => entry.2.any fun spelling => spelling.toList == word).map Prod.fst

/-- What the rules for words find at the start of a text. -/
def wordMatch? (text : List Char) : Option (Tag × Nat) :=
  (wordAhead? text).bind fun word => (wordTag? word).map fun tag => (tag, word.length)

/-- The spellings of reserved words are words of upper-case letters. -/
theorem upper_of_mem_wordTable :
    ∀ entry ∈ wordTable, ∀ spelling ∈ entry.2,
      spelling.toList ≠ [] ∧ ∀ letter ∈ spelling.toList, letter.isUpper = true := by
  have table : ∀ entry ∈ wordTable, ∀ spelling ∈ entry.2,
      spelling.toList ≠ [] ∧ spelling.toList.all Char.isUpper = true := by
    decide
  intro entry member spelling listed
  rcases table entry member spelling listed with ⟨nonempty, upper⟩
  exact ⟨nonempty, List.all_eq_true.1 upper⟩

/-- A rule for words looks at the word ahead and nothing else. -/
theorem matchLength_word
    {spellings : List String}
    (upper : ∀ spelling ∈ spellings,
      spelling.toList ≠ [] ∧ ∀ letter ∈ spelling.toList, letter.isUpper = true)
    (tag : Tag) (text : List Char) :
    Rule.matchLength ⟨tag, .word spellings⟩ text =
      ((wordAhead? text).filter fun word =>
        spellings.any fun spelling => spelling.toList == word).map List.length := by
  have fits (spelling : String) (member : spelling ∈ spellings) :
      (startsWithFolded spelling.toList text &&
        endsWord (text.drop spelling.toList.length)) = true ↔
      wordAhead? text = some spelling.toList := by
    rw [startsWithFolded_and_endsWord_iff (upper spelling member).2, wordAhead?_eq_some_iff]
  simp only [Rule.matchLength, Pattern.matchLength]
  cases found : spellings.find? fun spelling =>
      startsWithFolded spelling.toList text &&
        endsWord (text.drop spelling.toList.length) with
  | none =>
      have absent := List.find?_eq_none.1 found
      have noWord : (wordAhead? text).filter (fun word =>
          spellings.any fun spelling => spelling.toList == word) = none := by
        rw [Option.filter_eq_none_iff]
        intro word ahead listed
        rcases List.any_eq_true.1 listed with ⟨spelling, member, same⟩
        apply absent spelling member
        rw [fits spelling member, ahead, beq_iff_eq.1 same]
      rw [noWord]
      rfl
  | some spelling =>
      have member := List.mem_of_find?_eq_some found
      have fitting := List.find?_some (p := fun spelling : String =>
        startsWithFolded spelling.toList text &&
          endsWord (text.drop spelling.toList.length)) found
      have ahead := (fits spelling member).1 fitting
      have listed : (spellings.any fun other => other.toList == spelling.toList) = true :=
        List.any_eq_true.2 ⟨spelling, member, beq_self_eq_true _⟩
      have positive := List.length_pos_iff.2 (upper spelling member).1
      rw [ahead, Option.filter_some, if_pos listed, Option.map_some, Option.map_some,
        Option.filter_some, if_pos (decide_eq_true positive)]

/-- The rules for words together find what `wordMatch?` says. -/
theorem findSome?_wordTable (text : List Char) :
    ((wordTable.map fun entry => (⟨entry.1, .word entry.2⟩ : Rule)).findSome? fun rule =>
      (rule.matchLength text).map fun length => (rule.tag, length)) = wordMatch? text := by
  rw [wordMatch?]
  simp only [wordTag?]
  have upper := upper_of_mem_wordTable
  -- Of the table only `upper` matters, so the induction is on any table that has it.
  generalize wordTable = table at upper ⊢
  induction table with
  | nil => cases wordAhead? text <;> rfl
  | cons entry later hypothesis =>
      have others := hypothesis fun other member => upper other (List.mem_cons_of_mem _ member)
      rw [List.map_cons, List.findSome?_cons, others,
        matchLength_word (upper entry List.mem_cons_self)]
      cases wordAhead? text with
      | none => rfl
      | some word =>
          rw [Option.bind_some, Option.bind_some, Option.filter_some, List.find?_cons]
          by_cases listed : (entry.2.any fun spelling => spelling.toList == word) = true
          · rw [if_pos listed, listed]
            rfl
          · rw [if_neg listed, eq_false_of_ne_true listed]
            rfl

theorem wordMatch?_eq_none_of_letterRun
    {text : List Char} (noLetter : letterRun text = []) :
    wordMatch? text = none := by
  have noTag : wordTag? [] = none := by decide
  rw [wordMatch?, wordAhead?, noLetter]
  split
  · simp [noTag]
  · rfl

/-- What the rules for words find is the whole run of letters. -/
theorem wordMatch?_eq_some_iff (text : List Char) (tag : Tag) (length : Nat) :
    wordMatch? text = some (tag, length) ↔
      wordTag? ((letterRun text).map foldCase) = some tag ∧
        endsWord (text.drop (letterRun text).length) = true ∧
          length = (letterRun text).length := by
  rw [wordMatch?, wordAhead?]
  split
  · rename_i ended
    simp only [Option.bind_some, Option.map_eq_some_iff, Prod.mk.injEq, List.length_map, ended]
    constructor
    · rintro ⟨found, tagged, rfl, rfl⟩
      exact ⟨tagged, trivial, rfl⟩
    · rintro ⟨tagged, -, rfl⟩
      exact ⟨tag, tagged, rfl, rfl⟩
  · rename_i notOver
    simp [notOver]

end FindQuery.Lexis
