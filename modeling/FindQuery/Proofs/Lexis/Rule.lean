import FindQuery.Proofs.Lexis.Word
import Mathlib.Data.List.Find

/-!
# Words, signs and literals

The rules fall into three classes, in this order: rules for words, rules for signs
and the four rules for literals.  The first match of all rules is the first match
of the first class that has one, and its tag tells which class that is.
-/

namespace FindQuery.Lexis

open FindQuery.Text

/-! ## Signs -/

/-- The tags of the rules for signs and the spellings of each. -/
def signTable : List (Tag × List String) :=
  rules.filterMap fun rule =>
    match rule.pattern with
    | .sign spellings => some (rule.tag, spellings)
    | _ => none

/-- The signs in the order in which they are tried, each with its tag. -/
def signs : List (Tag × String) :=
  signTable.flatMap fun entry => entry.2.map fun spelling => (entry.1, spelling)

/-- The characters that signs start with. -/
def isSignStart (character : Char) : Bool :=
  signs.any fun sign => sign.2.toList.head? == some character

/-- What the rules for signs find at the start of a text. -/
def signMatch? (text : List Char) : Option (Tag × Nat) :=
  (signs.find? fun sign => sign.2.toList.isPrefixOf text).map fun sign =>
    (sign.1, sign.2.toList.length)

theorem signMatch?_of_mem_signs :
    ∀ sign ∈ signs, signMatch? sign.2.toList = some (sign.1, sign.2.toList.length) := by
  decide

theorem signs_ne_nil : ∀ sign ∈ signs, sign.2.toList ≠ [] := by
  decide

theorem blank_notMem_signs : ∀ sign ∈ signs, ' ' ∉ sign.2.toList := by
  decide

/-- A rule for signs finds the first of its spellings that the text starts with. -/
theorem matchLength_sign
    {spellings : List String} (nonempty : ∀ spelling ∈ spellings, spelling.toList ≠ [])
    (tag : Tag) (text : List Char) :
    Rule.matchLength ⟨tag, .sign spellings⟩ text =
      (spellings.find? fun spelling => spelling.toList.isPrefixOf text).map
        fun spelling => spelling.toList.length := by
  simp only [Rule.matchLength, Pattern.matchLength]
  cases found : spellings.find? fun spelling => spelling.toList.isPrefixOf text with
  | none => rfl
  | some spelling =>
      have member := List.mem_of_find?_eq_some found
      have positive := List.length_pos_iff.2 (nonempty spelling member)
      rw [Option.map_some, Option.filter_some, if_pos (decide_eq_true positive)]

/-- The rules for signs together find what `signMatch?` says. -/
theorem findSome?_signTable (text : List Char) :
    ((signTable.map fun entry => (⟨entry.1, .sign entry.2⟩ : Rule)).findSome? fun rule =>
      (rule.matchLength text).map fun length => (rule.tag, length)) = signMatch? text := by
  have nonempty : ∀ entry ∈ signTable, ∀ spelling ∈ entry.2, spelling.toList ≠ [] := by
    decide
  rw [signMatch?, signs, List.find?_flatMap, List.map_findSome?, List.findSome?_map]
  generalize signTable = table at nonempty ⊢
  induction table with
  | nil => rfl
  | cons entry later hypothesis =>
      have others := hypothesis fun other member => nonempty other (List.mem_cons_of_mem _ member)
      rw [List.findSome?_cons, List.findSome?_cons, others]
      simp only [Function.comp_apply,
        matchLength_sign (nonempty entry List.mem_cons_self), List.find?_map, Option.map_map]
      rfl

/-- A sign that is found stands at the start of the text. -/
theorem exists_sign_of_signMatch?
    {text : List Char} {tag : Tag} {length : Nat}
    (found : signMatch? text = some (tag, length)) :
    ∃ sign ∈ signs, ∃ rest,
      sign.1 = tag ∧ length = sign.2.toList.length ∧ text = sign.2.toList ++ rest := by
  rcases Option.map_eq_some_iff.1 found with ⟨sign, first, equal⟩
  cases equal
  have member := List.mem_of_find?_eq_some first
  have fitting := List.find?_some (p := fun sign : Tag × String =>
    sign.2.toList.isPrefixOf text) first
  rcases List.isPrefixOf_iff_prefix.1 fitting with ⟨rest, whole⟩
  exact ⟨sign, member, rest, rfl, rfl, whole.symm⟩

theorem signMatch?_eq_none_of_head
    {first : Char} (noStart : isSignStart first = false) (rest : List Char) :
    signMatch? (first :: rest) = none := by
  rw [signMatch?, Option.map_eq_none_iff, List.find?_eq_none]
  intro sign member fitting
  have leading := List.isPrefixOf_iff_prefix.1 fitting
  apply ne_true_of_eq_false noStart
  rw [isSignStart, List.any_eq_true]
  refine ⟨sign, member, ?_⟩
  cases spelled : sign.2.toList with
  | nil => exact absurd spelled (signs_ne_nil sign member)
  | cons head tail =>
      rw [spelled] at leading
      have same := (List.cons_prefix_cons.1 leading).1
      simp [same]

/-- A sign is found as such where a space or nothing follows it. -/
theorem signMatch?_append
    {text rest : List Char} (blank : ∀ next ∈ rest.head?, next = ' ') :
    signMatch? (text ++ rest) = signMatch? text := by
  have same : ∀ sign ∈ signs,
      sign.2.toList.isPrefixOf (text ++ rest) = sign.2.toList.isPrefixOf text := by
    intro sign member
    have foreign : ∀ next ∈ rest.head?, next ∉ sign.2.toList := by
      intro next atHead
      rw [blank next atHead]
      exact blank_notMem_signs sign member
    rw [Bool.eq_iff_iff, List.isPrefixOf_iff_prefix, List.isPrefixOf_iff_prefix,
      prefix_append_iff_of_head? foreign]
  rw [signMatch?, signMatch?, List.find?_congr same]

/-! ## Literals -/

/-- The rules for literals. -/
def literalRules : List Rule :=
  [⟨.string, .quoted⟩, ⟨.ident, .name⟩, ⟨.float, .decimal⟩, ⟨.int, .integer⟩]

/-- What the rules for literals find at the start of a text. -/
def literalMatch? (text : List Char) : Option (Tag × Nat) :=
  literalRules.findSome? fun rule =>
    (rule.matchLength text).map fun length => (rule.tag, length)

/-- The lexeme of a literal fits the rule that its tag names. -/
theorem exists_rule_of_literalMatch?
    {text : List Char} {tag : Tag} {length : Nat}
    (found : literalMatch? text = some (tag, length)) :
    ∃ pattern, ⟨tag, pattern⟩ ∈ literalRules ∧ pattern.matchLength text = some length := by
  rcases List.exists_of_findSome?_eq_some found with ⟨rule, member, matched⟩
  rcases Option.map_eq_some_iff.1 matched with ⟨measured, ruleMatch, equal⟩
  cases equal
  exact ⟨rule.pattern, member, (Option.filter_eq_some_iff.1 ruleMatch).1⟩

/-! ## All rules -/

theorem rules_eq_append :
    rules = (wordTable.map fun entry => ⟨entry.1, .word entry.2⟩) ++
      ((signTable.map fun entry => ⟨entry.1, .sign entry.2⟩) ++ literalRules) := rfl

/-- The first match is that of the first class that has one. -/
theorem firstMatch?_eq_or (text : List Char) :
    firstMatch? text =
      (wordMatch? text).or ((signMatch? text).or (literalMatch? text)) := by
  rw [firstMatch?, rules_eq_append, List.findSome?_append, List.findSome?_append,
    findSome?_wordTable, findSome?_signTable, literalMatch?]

end FindQuery.Lexis
