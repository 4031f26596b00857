import FindQuery.Proofs.Grammar.Reader

/-!
# Chains of predicates

In the text of a condition predicates follow each other with a connective before each but
the first, and the groups of the condition are what the chain comes to when `AND` binds
tighter than `OR`.  The tokens of a chain and the tokens of its groups are the same.  A
literal in the place of a sign is a value by itself, so the relations of this module ask of a
sign that it is no literal; with that they are exact for every list of tokens.
-/

namespace FindQuery.Grammar

/-! ## Conditions as they are written -/

/-- A literal, or a number after a sign that is no literal. -/
def WritesValue (used : List Token) (value : Value) : Prop :=
  SpellsValue used value ∧ ∀ sign number, used = [sign, number] → sign.tag.isLiteral = false

/-- Two values, written so, with an equality sign between them. -/
def WritesPredicate : List Token → Predicate → Prop :=
  Equated WritesValue

/-- Groups joined by `OR`, each of them of predicates joined by `AND`. -/
def WritesGroups : List Token → List (List Predicate) → Prop :=
  Joined .or (Joined .and WritesPredicate)

/-- The tag of the literals that stand for values of a class. -/
def literalTag : ValueKind → Tag
  | .int => .int
  | .float => .float
  | .string => .string
  | .ident => .ident

/-- Every value can be written as one literal. -/
theorem exists_writesValue (value : Value) :
    ∃ used, WritesValue used value := by
  refine ⟨[⟨.literal, literalTag value.kind, value.raw, ⟨0, 0⟩⟩], .literal _ value.kind ?_,
    by simp⟩
  cases value.kind <;> rfl

theorem exists_writesPredicate_iff (predicate : Predicate) :
    (∃ used, WritesPredicate used predicate) ↔ predicate.comparison = .equal := by
  obtain ⟨left, comparison, right⟩ := predicate
  constructor
  · rintro ⟨used, written⟩
    cases written
    rfl
  · rintro rfl
    rcases exists_writesValue left with ⟨leftTokens, leftWritten⟩
    rcases exists_writesValue right with ⟨rightTokens, rightWritten⟩
    exact ⟨_, .equal leftWritten { (default : Token) with kind := .equal } rfl rightWritten⟩

/-- What can be written is groups, at least one and none of them empty, of equalities. -/
theorem exists_writesGroups_iff (groups : List (List Predicate)) :
    (∃ used, WritesGroups used groups) ↔
      groups ≠ [] ∧ ∀ group ∈ groups,
        group ≠ [] ∧ ∀ predicate ∈ group, predicate.comparison = .equal := by
  constructor
  · rintro ⟨used, written⟩
    refine ⟨written.ne_nil, fun group member => ?_⟩
    rcases written.exists_of_mem member with ⟨phrase, -, joined⟩
    refine ⟨joined.ne_nil, fun predicate member => ?_⟩
    rcases joined.exists_of_mem member with ⟨tokens, -, first⟩
    exact (exists_writesPredicate_iff predicate).1 ⟨tokens, first⟩
  · rintro ⟨some, each⟩
    refine Joined.exists_of_forall .or some fun group member => ?_
    refine Joined.exists_of_forall .and (each group member).1 fun predicate inside => ?_
    exact (exists_writesPredicate_iff predicate).2 ((each group member).2 predicate inside)

/-- Predicates in the order of the text, each with the connective before it. -/
abbrev Chain := List (Connective × Predicate)

/-- Predicates, each after the word of its connective. -/
inductive WritesChain : List Token → Chain → Prop where
  | nil :
      WritesChain [] []
  | cons
      {tokens later : List Token} {predicate : Predicate} {chain : Chain}
      (word : Token) (connective : Connective)
      (joins : Connective.ofKind? word.kind = some connective)
      (first : WritesPredicate tokens predicate)
      (others : WritesChain later chain) :
      WritesChain (word :: (tokens ++ later)) ((connective, predicate) :: chain)

theorem WritesChain.append
    {tokens later : List Token} {chain following : Chain}
    (first : WritesChain tokens chain)
    (second : WritesChain later following) :
    WritesChain (tokens ++ later) (chain ++ following) := by
  induction first with
  | nil => exact second
  | cons word connective joins first _ hypothesis =>
      rw [List.cons_append, List.append_assoc, List.cons_append]
      exact .cons word connective joins first hypothesis

/-! ## The groups of a chain -/

/-- Only `AND` and `OR` go on with a condition. -/
theorem connective_eq_some_iff
    (kind : Kind) (connective : Connective) :
    Connective.ofKind? kind = some connective ↔
      (kind = .and ∧ connective = .and) ∨ (kind = .or ∧ connective = .or) := by
  cases kind <;> simp [Connective.ofKind?, eq_comm]

/-- Joins the predicates of a chain to a condition. -/
def extendBy (condition : Condition) (chain : Chain) : Condition :=
  chain.foldl (fun condition link => condition.extend link.1 link.2) condition

/-- The groups of a chain whose first predicates are in an open group already. -/
def groupsAfter (group : List Predicate) : Chain → List (List Predicate)
  | [] => [group]
  | (.and, predicate) :: chain => groupsAfter (group ++ [predicate]) chain
  | (.or, predicate) :: chain => group :: groupsAfter [predicate] chain

/-- A chain goes on with the last group of a condition and leaves those before it alone. -/
theorem extendBy_eq_groupsAfter
    (earlier : List (List Predicate)) (group : List Predicate) (chain : Chain) :
    extendBy ⟨earlier ++ [group]⟩ chain = ⟨earlier ++ groupsAfter group chain⟩ := by
  induction chain generalizing earlier group with
  | nil => rfl
  | cons link chain hypothesis =>
      obtain ⟨connective, predicate⟩ := link
      cases connective with
      | and =>
          have widened : Condition.extend ⟨earlier ++ [group]⟩ .and predicate =
              ⟨earlier ++ [group ++ [predicate]]⟩ := by
            simp [Condition.extend, Condition.and]
          rw [groupsAfter, ← hypothesis, ← widened]
          rfl
      | or =>
          have later := hypothesis (earlier ++ [group]) [predicate]
          rw [List.append_assoc _ _ (groupsAfter _ _)] at later
          exact later

/-- An open group takes the predicates up to the next `OR`. -/
theorem groupsAfter_append
    (group predicates : List Predicate) (chain : Chain) :
    groupsAfter group (predicates.map (Connective.and, ·) ++ chain) =
      groupsAfter (group ++ predicates) chain := by
  induction predicates generalizing group with
  | nil => simp
  | cons predicate predicates hypothesis =>
      rw [List.map_cons, List.cons_append, groupsAfter, hypothesis]
      simp

/-- What is written as a group and a chain after it is written as the groups of the chain. -/
theorem WritesChain.writesGroups
    {before used : List Token} {group : List Predicate} {chain : Chain}
    (chained : WritesChain used chain)
    (begun : Joined .and WritesPredicate before group) :
    WritesGroups (before ++ used) (groupsAfter group chain) := by
  induction chained generalizing before group with
  | nil =>
      rw [List.append_nil]
      exact .single begun
  | cons word connective joins first _ hypothesis =>
      rcases (connective_eq_some_iff _ _).1 joins with ⟨isAnd, rfl⟩ | ⟨isOr, rfl⟩
      · have whole := hypothesis (begun.concat word isAnd first)
        rwa [List.append_assoc, List.cons_append] at whole
      · exact .cons begun word isOr (hypothesis (.single first))

/-- A group is its first predicate and a chain of the others. -/
theorem Joined.exists_writesChain
    {used : List Token} {group : List Predicate}
    (joined : Joined .and WritesPredicate used group) :
    ∃ firstTokens first laterTokens later,
      used = firstTokens ++ laterTokens ∧ group = first :: later ∧
        WritesPredicate firstTokens first ∧
          WritesChain laterTokens (later.map (Connective.and, ·)) := by
  induction joined with
  | single first => exact ⟨_, _, [], [], by simp, rfl, first, .nil⟩
  | @cons tokens others predicate predicates first word isAnd _ hypothesis =>
      rcases hypothesis with ⟨nextTokens, next, laterTokens, later, rfl, rfl, second, chained⟩
      have joins : Connective.ofKind? word.kind = some .and :=
        (connective_eq_some_iff _ _).2 (.inl ⟨isAnd, rfl⟩)
      exact ⟨tokens, predicate, word :: (nextTokens ++ laterTokens), next :: later, rfl, rfl,
        first, .cons word .and joins second chained⟩

/-- Groups are written as the first predicate and the chain that they come from. -/
theorem writesGroups_iff
    (used : List Token) (groups : List (List Predicate)) :
    WritesGroups used groups ↔
      ∃ firstTokens first laterTokens chain,
        used = firstTokens ++ laterTokens ∧ WritesPredicate firstTokens first ∧
          WritesChain laterTokens chain ∧ groups = groupsAfter [first] chain := by
  constructor
  · intro written
    induction written with
    | single begun =>
        rcases begun.exists_writesChain with
          ⟨firstTokens, first, laterTokens, later, rfl, rfl, isFirst, chained⟩
        have groups := groupsAfter_append [first] later []
        rw [List.append_nil] at groups
        exact ⟨firstTokens, first, laterTokens, _, rfl, isFirst, chained, groups.symm⟩
    | cons begun word isOr _ hypothesis =>
        rcases begun.exists_writesChain with
          ⟨firstTokens, first, laterTokens, later, rfl, rfl, isFirst, chained⟩
        rcases hypothesis with ⟨nextTokens, next, restTokens, chain, rfl, isNext, rest, rfl⟩
        have joins : Connective.ofKind? word.kind = some .or :=
          (connective_eq_some_iff _ _).2 (.inr ⟨isOr, rfl⟩)
        refine ⟨firstTokens, first, laterTokens ++ word :: (nextTokens ++ restTokens), _,
          by simp, isFirst, chained.append (.cons word .or joins isNext rest), ?_⟩
        rw [groupsAfter_append]
        rfl
  · rintro ⟨firstTokens, first, laterTokens, chain, rfl, isFirst, chained, rfl⟩
    exact chained.writesGroups (.single isFirst)

/-! ## What a condition means -/

/-- Whether a condition holds, given which predicates do. -/
def conditionHolds (truth : Predicate → Bool) (condition : Condition) : Bool :=
  condition.groups.any fun group => group.all truth

/--
Whether a chain holds when `AND` binds tighter than `OR`.  The flag is the value of the
conjunction that the chain goes on with; an `OR` ends that conjunction.
-/
def chainHolds (truth : Predicate → Bool) (before : Bool) : Chain → Bool
  | [] => before
  | (.and, predicate) :: chain => chainHolds truth (before && truth predicate) chain
  | (.or, predicate) :: chain => before || chainHolds truth (truth predicate) chain

/-- The groups of a chain mean what the chain means. -/
theorem conditionHolds_groupsAfter
    (truth : Predicate → Bool) (group : List Predicate) (chain : Chain) :
    conditionHolds truth ⟨groupsAfter group chain⟩ =
      chainHolds truth (group.all truth) chain := by
  induction chain generalizing group with
  | nil => simp [groupsAfter, conditionHolds, chainHolds]
  | cons link chain hypothesis =>
      obtain ⟨connective, predicate⟩ := link
      cases connective with
      | and => simp [groupsAfter, chainHolds, hypothesis]
      | or =>
          have later := hypothesis [predicate]
          simp only [conditionHolds, List.all_cons, List.all_nil, Bool.and_true] at later
          simp only [groupsAfter, chainHolds, conditionHolds, List.any_cons, later]

end FindQuery.Grammar
