import FindQuery.Token

/-!
# Lists with words between their items

Fields are listed with commas, predicates with `AND` and groups of predicates with `OR`.
`Joined` is the spelling of such a list, given the spelling of one item.  What each item has
is had by the list, and whatever can be spelled item by item can be spelled as a list.
-/

namespace FindQuery.Grammar

variable {Item : Type} {kind : Kind} {Spells Other : List Token → Item → Prop}
  {used : List Token} {items : List Item}

/-- Items, at least one, with a word of a given kind between them. -/
inductive Joined (kind : Kind) (Spells : List Token → Item → Prop) :
    List Token → List Item → Prop where
  | single
      {tokens : List Token} {item : Item}
      (first : Spells tokens item) :
      Joined kind Spells tokens [item]
  | cons
      {tokens later : List Token} {item : Item} {items : List Item}
      (first : Spells tokens item)
      (word : Token)
      (joins : word.kind = kind)
      (others : Joined kind Spells later items) :
      Joined kind Spells (tokens ++ word :: later) (item :: items)

namespace Joined

theorem imp
    (joined : Joined kind Spells used items)
    (weaker : ∀ phrase item, phrase ⊆ used → Spells phrase item → Other phrase item) :
    Joined kind Other used items := by
  induction joined with
  | single first => exact .single (weaker _ _ (List.Subset.refl _) first)
  | cons first word joins _ hypothesis =>
      have others := hypothesis fun phrase item within =>
        weaker phrase item fun _ member => by simp [within member]
      exact .cons (weaker _ _ (List.subset_append_left _ _) first) word joins others

theorem concat
    {earlier tokens : List Token} {item : Item}
    (joined : Joined kind Spells earlier items)
    (word : Token)
    (joins : word.kind = kind)
    (last : Spells tokens item) :
    Joined kind Spells (earlier ++ word :: tokens) (items ++ [item]) := by
  induction joined with
  | single first => exact .cons first word joins (.single last)
  | cons first joint isJoint _ hypothesis =>
      rw [List.append_assoc, List.cons_append, List.cons_append]
      exact .cons first joint isJoint hypothesis

theorem ne_nil (joined : Joined kind Spells used items) : items ≠ [] := by
  cases joined with
  | single => simp
  | cons => simp

/-- A list starts as its first item does. -/
theorem exists_first (joined : Joined kind Spells used items) :
    ∃ phrase item later, used = phrase ++ later ∧ Spells phrase item := by
  cases joined with
  | single first => exact ⟨_, _, [], (List.append_nil _).symm, first⟩
  | cons first word joins others => exact ⟨_, _, _, rfl, first⟩

/-- Each item is spelled by some of the tokens. -/
theorem exists_of_mem
    (joined : Joined kind Spells used items)
    {item : Item} (member : item ∈ items) :
    ∃ phrase, phrase ⊆ used ∧ Spells phrase item := by
  induction joined with
  | single first =>
      rcases List.mem_singleton.1 member with rfl
      exact ⟨_, List.Subset.refl _, first⟩
  | cons first word joins _ hypothesis =>
      rcases List.mem_cons.1 member with rfl | later
      · exact ⟨_, List.subset_append_left _ _, first⟩
      · rcases hypothesis later with ⟨phrase, within, spelled⟩
        exact ⟨phrase, fun _ member => by simp [within member], spelled⟩

/-- What holds of the words and of the tokens of every item holds of all tokens. -/
theorem forall_mem
    {P : Token → Prop}
    (joined : Joined kind Spells used items)
    (words : ∀ word, word.kind = kind → P word)
    (each : ∀ phrase item, Spells phrase item → ∀ token ∈ phrase, P token) :
    ∀ token ∈ used, P token := by
  induction joined with
  | single first => exact each _ _ first
  | cons first word joins _ hypothesis =>
      rw [List.forall_mem_append, List.forall_mem_cons]
      exact ⟨each _ _ first, words word joins, hypothesis⟩

/-- Items that can be spelled one by one can be spelled together. -/
theorem exists_of_forall
    (kind : Kind)
    (some : items ≠ [])
    (each : ∀ item ∈ items, ∃ tokens, Spells tokens item) :
    ∃ used, Joined kind Spells used items := by
  induction items with
  | nil => exact absurd rfl some
  | cons item items hypothesis =>
      rcases each item (by simp) with ⟨tokens, first⟩
      cases items with
      | nil => exact ⟨tokens, .single first⟩
      | cons next others =>
          rcases hypothesis (by simp) fun item member => each item (by simp [member]) with
            ⟨used, joined⟩
          exact ⟨_, .cons first { (default : Token) with kind } rfl joined⟩

end Joined

end FindQuery.Grammar
