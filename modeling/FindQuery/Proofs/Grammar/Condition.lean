import FindQuery.Proofs.Grammar.Chain

/-!
# Reading conditions

Whatever `readCondition` accepts is written as the groups that it returns, and whatever is
written as groups is read, provided that neither `AND` nor `OR` follows it.  The loop of the
reader takes a chain of predicates and joins them to the condition one by one; what the
groups of the chain are is no matter of the reader.
-/

namespace FindQuery.Grammar

/-! ## Values and predicates -/

/-- A numeral is an integer or else a decimal. -/
theorem ofTag?_of_isNumeric
    {tag : Tag} (numeric : tag.isNumeric = true) :
    ValueKind.ofTag? tag = some (if tag = .int then .int else .float) := by
  revert numeric
  cases tag <;> simp [Tag.isNumeric, ValueKind.ofTag?]

theorem writesValue_of_readValue
    {tokens rest : List Token} {value : Value}
    (read : readValue tokens = .ok value rest) :
    ∃ used, tokens = used ++ rest ∧ WritesValue used value := by
  cases tokens with
  | nil => simp [readValue] at read
  | cons token later =>
      simp only [readValue] at read
      split at read
      · rename_i literalValue ofToken
        cases read
        rcases Option.map_eq_some_iff.1 ofToken with ⟨kind, valued, rfl⟩
        exact ⟨[token], rfl, .literal token kind valued, by simp⟩
      · rename_i ofToken
        split at read
        · rename_i isSign
          cases later with
          | nil => simp at read
          | cons number after =>
              simp only at read
              split at read
              · rename_i numeric
                cases read
                have noLiteral : token.tag.isLiteral = false :=
                  (ofTag?_eq_none_iff _).1 (Option.map_eq_none_iff.1 ofToken)
                refine ⟨[token, number], rfl,
                  .signed token number _ isSign numeric (ofTag?_of_isNumeric numeric), ?_⟩
                rintro sign other same
                cases same
                exact noLiteral
              · cases read
        · cases read

theorem readValue_of_writesValue
    {used : List Token} {value : Value}
    (written : WritesValue used value)
    (rest : List Token) :
    readValue (used ++ rest) = .ok value rest := by
  rcases written with ⟨spelled, unquoted⟩
  cases spelled with
  | literal token kind valued =>
      simp [readValue, Value.ofToken?, valued]
  | signed sign number kind isSign numeric valued =>
      have noValue : ValueKind.ofTag? sign.tag = none :=
        (ofTag?_eq_none_iff _).2 (unquoted sign number rfl)
      have sameKind : kind = if number.tag = .int then .int else .float := by
        rw [ofTag?_of_isNumeric numeric] at valued
        exact (Option.some.inj valued).symm
      simp [readValue, Value.ofToken?, noValue, isSign, numeric, sameKind]

/-- Among the comparisons only equality is accepted. -/
theorem resolvedComparison_eq_some_iff
    (kind : Kind) (comparison : Comparison) :
    (Comparison.ofKind? kind).filter Comparison.isResolved = some comparison ↔
      kind = .equal ∧ comparison = .equal := by
  cases kind <;>
    simp [Comparison.ofKind?, Comparison.isResolved, Option.filter, eq_comm]

/-- A comparison that is read is an equality sign. -/
theorem readComparison_eq_ok_iff
    (tokens rest : List Token) (comparison : Comparison) :
    readComparison tokens = .ok comparison rest ↔
      comparison = .equal ∧ ∃ sign, sign.kind = .equal ∧ tokens = sign :: rest := by
  constructor
  · intro read
    cases tokens with
    | nil => simp [readComparison] at read
    | cons sign later =>
        simp only [readComparison] at read
        split at read
        · rename_i found resolved
          cases read
          rcases (resolvedComparison_eq_some_iff _ _).1 resolved with ⟨isEqual, same⟩
          exact ⟨same, sign, isEqual, rfl⟩
        · cases read
  · rintro ⟨rfl, sign, isEqual, rfl⟩
    have resolved := (resolvedComparison_eq_some_iff sign.kind .equal).2 ⟨isEqual, rfl⟩
    simp [readComparison, resolved]

theorem writesPredicate_of_readPredicate
    {tokens rest : List Token} {predicate : Predicate}
    (read : readPredicate tokens = .ok predicate rest) :
    ∃ used, tokens = used ++ rest ∧ WritesPredicate used predicate := by
  rcases (bind_eq_ok_iff _ _ _ _ _).1 read with ⟨left, afterLeft, readLeft, run⟩
  rcases (bind_eq_ok_iff _ _ _ _ _).1 run with ⟨comparison, afterSign, readSign, run⟩
  rcases (bind_eq_ok_iff _ _ _ _ _).1 run with ⟨right, afterRight, readRight, run⟩
  rcases (pure_eq_ok_iff _ _ _ _).1 run with ⟨rfl, rfl⟩
  rcases writesValue_of_readValue readLeft with ⟨leftTokens, rfl, leftWritten⟩
  rcases (readComparison_eq_ok_iff _ _ _).1 readSign with ⟨rfl, sign, isEqual, rfl⟩
  rcases writesValue_of_readValue readRight with ⟨rightTokens, rfl, rightWritten⟩
  exact ⟨leftTokens ++ sign :: rightTokens, by simp,
    .equal leftWritten sign isEqual rightWritten⟩

theorem readPredicate_of_writesPredicate
    {used : List Token} {predicate : Predicate}
    (written : WritesPredicate used predicate)
    (rest : List Token) :
    readPredicate (used ++ rest) = .ok predicate rest := by
  cases written with
  | @equal leftTokens rightTokens left right leftWritten sign isEqual rightWritten =>
      have readLeft := readValue_of_writesValue leftWritten (sign :: (rightTokens ++ rest))
      have readSign := (readComparison_eq_ok_iff
        (sign :: (rightTokens ++ rest)) (rightTokens ++ rest) .equal).2
          ⟨rfl, sign, isEqual, rfl⟩
      have readRight := readValue_of_writesValue rightWritten rest
      rw [List.append_assoc, List.cons_append]
      apply (bind_eq_ok_iff _ _ _ _ _).2
      refine ⟨left, _, readLeft, (bind_eq_ok_iff _ _ _ _ _).2 ?_⟩
      refine ⟨.equal, _, readSign, (bind_eq_ok_iff _ _ _ _ _).2 ?_⟩
      exact ⟨right, _, readRight, rfl⟩

/-! ## The loop over predicates -/

/-- Neither `AND` nor `OR` goes on with a condition here. -/
def EndsCondition (tokens : List Token) : Prop :=
  startsWith .and tokens = false ∧ startsWith .or tokens = false

theorem endsCondition_cons_iff (token : Token) (later : List Token) :
    EndsCondition (token :: later) ↔ Connective.ofKind? token.kind = none := by
  simp only [EndsCondition, startsWith]
  cases token.kind <;> decide

/-- The loop takes a connective and the predicate after it in one step. -/
theorem readFurther_cons
    {word : Token} {connective : Connective} {tokens after : List Token}
    {predicate : Predicate}
    (joins : Connective.ofKind? word.kind = some connective)
    (read : readPredicate tokens = .ok predicate after)
    (condition : Condition) :
    readFurther condition (word :: tokens) =
      readFurther (condition.extend connective predicate) after := by
  rw [readFurther]
  simp only [joins]
  split
  · simp_all
  · rename_i found remaining readHere
    rw [read] at readHere
    cases readHere
    rfl

theorem readFurther_cons_of_error
    {word : Token} {connective : Connective} {tokens after : List Token} {fault : Fault}
    (joins : Connective.ofKind? word.kind = some connective)
    (failed : readPredicate tokens = .error fault after)
    (condition : Condition) :
    readFurther condition (word :: tokens) = .error fault after := by
  rw [readFurther]
  simp only [joins]
  split
  · rename_i found remaining failedHere
    rw [failed] at failedHere
    cases failedHere
    rfl
  · simp_all

/-- The loop stops before a token that is no connective, and at the end. -/
theorem readFurther_of_endsCondition
    {tokens : List Token}
    (ends : EndsCondition tokens)
    (condition : Condition) :
    readFurther condition tokens = .ok condition tokens := by
  cases tokens with
  | nil => rw [readFurther]
  | cons token later =>
      rw [readFurther]
      simp only [(endsCondition_cons_iff _ _).1 ends]

/-- The loop takes a chain to its end and joins it to the condition read so far. -/
theorem readFurther_eq_ok_iff
    (condition result : Condition) (tokens rest : List Token) :
    readFurther condition tokens = .ok result rest ↔
      ∃ used chain,
        tokens = used ++ rest ∧ WritesChain used chain ∧ result = extendBy condition chain ∧
          EndsCondition rest := by
  constructor
  · intro read
    induction condition, tokens using readFurther.induct with
    | case1 condition =>
        rw [readFurther] at read
        cases read
        exact ⟨[], [], rfl, .nil, rfl, rfl, rfl⟩
    | case2 condition token later noConnective =>
        have ends := (endsCondition_cons_iff token later).2 noConnective
        rw [readFurther_of_endsCondition ends] at read
        cases read
        exact ⟨[], [], rfl, .nil, rfl, ends⟩
    | case3 condition token later connective joins fault after failed =>
        rw [readFurther_cons_of_error joins failed] at read
        cases read
    | case4 condition token later connective joins predicate after readHere hypothesis =>
        rw [readFurther_cons joins readHere] at read
        rcases writesPredicate_of_readPredicate readHere with ⟨here, rfl, written⟩
        rcases hypothesis read with ⟨used, chain, rfl, chained, rfl, ends⟩
        exact ⟨_, _, by simp, .cons token connective joins written chained, rfl, ends⟩
  · rintro ⟨used, chain, rfl, chained, rfl, ends⟩
    induction chained generalizing condition with
    | nil => exact readFurther_of_endsCondition ends condition
    | cons word connective joins first _ hypothesis =>
        have read := readPredicate_of_writesPredicate first
        rw [List.cons_append, List.append_assoc, readFurther_cons joins (read _), hypothesis]
        rfl

/-! ## Whole conditions -/

/-- The first predicate opens the first group, and a chain goes on with it. -/
theorem readCondition_eq_ok_iff
    (tokens rest : List Token) (condition : Condition) :
    readCondition tokens = .ok condition rest ↔
      ∃ used,
        tokens = used ++ rest ∧ WritesGroups used condition.groups ∧ EndsCondition rest := by
  have opened (first : Predicate) (chain : Chain) :
      extendBy (Condition.empty.or first) chain = ⟨groupsAfter [first] chain⟩ :=
    extendBy_eq_groupsAfter [] [first] chain
  constructor
  · intro read
    rcases (bind_eq_ok_iff _ _ _ _ _).1 read with ⟨first, afterFirst, readFirst, readLater⟩
    rcases writesPredicate_of_readPredicate readFirst with ⟨firstTokens, rfl, isFirst⟩
    rcases (readFurther_eq_ok_iff _ _ _ _).1 readLater with
      ⟨used, chain, rfl, chained, rfl, ends⟩
    refine ⟨firstTokens ++ used, by simp, ?_, ends⟩
    rw [opened]
    exact chained.writesGroups (.single isFirst)
  · rintro ⟨used, rfl, written, ends⟩
    rcases (writesGroups_iff _ _).1 written with
      ⟨firstTokens, first, laterTokens, chain, rfl, isFirst, chained, groups⟩
    have readFirst := readPredicate_of_writesPredicate isFirst (laterTokens ++ rest)
    have joined : condition = extendBy (Condition.empty.or first) chain := by
      rw [opened, ← groups]
    rw [List.append_assoc]
    exact (bind_eq_ok_iff _ _ _ _ _).2 ⟨first, _, readFirst,
      (readFurther_eq_ok_iff _ _ _ _).2 ⟨laterTokens, chain, rfl, chained, joined, ends⟩⟩

/--
Conditions and their spellings correspond to each other.  Groups are read from a list of
tokens exactly when it starts with them, written out, and neither `AND` nor `OR` follows;
groups that can be written are those that a condition may have; and what is written is a
chain of predicates that means, with `AND` binding tighter than `OR`, what the groups mean.
-/
theorem readCondition_corresponds_to_spelling :
    (∀ tokens rest groups,
        readCondition tokens = .ok ⟨groups⟩ rest ↔
          ∃ used, tokens = used ++ rest ∧ WritesGroups used groups ∧ EndsCondition rest) ∧
      (∀ groups,
        (∃ used, WritesGroups used groups) ↔
          groups ≠ [] ∧ ∀ group ∈ groups,
            group ≠ [] ∧ ∀ predicate ∈ group, predicate.comparison = .equal) ∧
      ∀ used groups, WritesGroups used groups →
        ∃ firstTokens first laterTokens chain,
          used = firstTokens ++ laterTokens ∧ WritesPredicate firstTokens first ∧
            WritesChain laterTokens chain ∧
              ∀ truth, conditionHolds truth ⟨groups⟩ = chainHolds truth (truth first) chain := by
  refine ⟨fun tokens rest groups => readCondition_eq_ok_iff tokens rest ⟨groups⟩,
    exists_writesGroups_iff, fun used groups written => ?_⟩
  rcases (writesGroups_iff _ _).1 written with
    ⟨firstTokens, first, laterTokens, chain, rfl, isFirst, chained, rfl⟩
  refine ⟨firstTokens, first, laterTokens, chain, rfl, isFirst, chained, fun truth => ?_⟩
  have same := conditionHolds_groupsAfter truth [first] chain
  rwa [List.all_cons, List.all_nil, Bool.and_true] at same

/-- The tokens of `a = -1 AND b = 2 OR c = d`. -/
def mixedTokens : List Token :=
  [⟨.literal, .ident, "a", ⟨0, 1⟩⟩, ⟨.equal, .equal, "=", ⟨2, 3⟩⟩,
    ⟨.minus, .minus, "-", ⟨4, 5⟩⟩, ⟨.literal, .int, "1", ⟨5, 6⟩⟩,
    ⟨.and, .and, "AND", ⟨7, 10⟩⟩, ⟨.literal, .ident, "b", ⟨11, 12⟩⟩,
    ⟨.equal, .equal, "=", ⟨13, 14⟩⟩, ⟨.literal, .int, "2", ⟨15, 16⟩⟩,
    ⟨.or, .or, "OR", ⟨17, 19⟩⟩, ⟨.literal, .ident, "c", ⟨20, 21⟩⟩,
    ⟨.equal, .equal, "=", ⟨22, 23⟩⟩, ⟨.literal, .ident, "d", ⟨24, 25⟩⟩]

/-- The groups that `mixedTokens` are written for. -/
def mixedGroups : List (List Predicate) :=
  [[⟨⟨.ident, "a"⟩, .equal, ⟨.int, "-1"⟩⟩, ⟨⟨.ident, "b"⟩, .equal, ⟨.int, "2"⟩⟩],
    [⟨⟨.ident, "c"⟩, .equal, ⟨.ident, "d"⟩⟩]]

theorem mixedTokens_write_mixedGroups :
    WritesGroups mixedTokens mixedGroups ∧
      readCondition (mixedTokens ++ [⟨.since, .temporal, "SINCE", ⟨26, 31⟩⟩]) =
        .ok ⟨mixedGroups⟩ [⟨.since, .temporal, "SINCE", ⟨26, 31⟩⟩] ∧
      ∃ firstTokens first laterTokens chain,
        mixedTokens = firstTokens ++ laterTokens ∧ WritesPredicate firstTokens first ∧
          WritesChain laterTokens chain ∧
            ∀ truth, conditionHolds truth ⟨mixedGroups⟩ =
              chainHolds truth (truth first) chain := by
  have literal (token : Token) (kind : ValueKind)
      (valued : ValueKind.ofTag? token.tag = some kind) :
      WritesValue [token] ⟨kind, token.text⟩ :=
    ⟨.literal token kind valued, by simp⟩
  have negative : WritesValue [⟨.minus, .minus, "-", ⟨4, 5⟩⟩, ⟨.literal, .int, "1", ⟨5, 6⟩⟩]
      ⟨.int, "-1"⟩ := by
    refine ⟨.signed _ _ .int (.inl rfl) rfl rfl, ?_⟩
    rintro sign number same
    cases same
    rfl
  have first : WritesPredicate (mixedTokens.take 4) ⟨⟨.ident, "a"⟩, .equal, ⟨.int, "-1"⟩⟩ :=
    .equal (literal ⟨.literal, .ident, "a", ⟨0, 1⟩⟩ .ident rfl)
      ⟨.equal, .equal, "=", ⟨2, 3⟩⟩ rfl negative
  have second : WritesPredicate ((mixedTokens.drop 5).take 3)
      ⟨⟨.ident, "b"⟩, .equal, ⟨.int, "2"⟩⟩ :=
    .equal (literal ⟨.literal, .ident, "b", ⟨11, 12⟩⟩ .ident rfl)
      ⟨.equal, .equal, "=", ⟨13, 14⟩⟩ rfl (literal ⟨.literal, .int, "2", ⟨15, 16⟩⟩ .int rfl)
  have third : WritesPredicate (mixedTokens.drop 9) ⟨⟨.ident, "c"⟩, .equal, ⟨.ident, "d"⟩⟩ :=
    .equal (literal ⟨.literal, .ident, "c", ⟨20, 21⟩⟩ .ident rfl)
      ⟨.equal, .equal, "=", ⟨22, 23⟩⟩ rfl (literal ⟨.literal, .ident, "d", ⟨24, 25⟩⟩ .ident rfl)
  have group := Joined.cons first ⟨.and, .and, "AND", ⟨7, 10⟩⟩ rfl (.single second)
  have written : WritesGroups mixedTokens mixedGroups :=
    Joined.cons group ⟨.or, .or, "OR", ⟨17, 19⟩⟩ rfl (.single (.single third))
  have read := (readCondition_corresponds_to_spelling.1
    (mixedTokens ++ [⟨.since, .temporal, "SINCE", ⟨26, 31⟩⟩]) _ mixedGroups).2
      ⟨mixedTokens, rfl, written, rfl, rfl⟩
  exact ⟨written, read,
    readCondition_corresponds_to_spelling.2.2 mixedTokens mixedGroups written⟩

/-! ## Coherent tokens -/

theorem Equated.imp
    {Spells Other : List Token → Value → Prop}
    {used : List Token} {predicate : Predicate}
    (equated : Equated Spells used predicate)
    (weaker : ∀ phrase value, phrase ⊆ used → Spells phrase value → Other phrase value) :
    Equated Other used predicate := by
  cases equated with
  | equal leftSpelled sign isEqual rightSpelled =>
      have left := weaker _ _ (List.subset_append_left _ _) leftSpelled
      have right := weaker _ _ (fun _ member => by simp [member]) rightSpelled
      exact .equal left sign isEqual right

/-- In coherent tokens a sign is no literal. -/
theorem SpellsValue.writesValue
    {used : List Token} {value : Value}
    (spelled : SpellsValue used value)
    (coherent : ∀ token ∈ used, IsCoherent token) :
    WritesValue used value := by
  refine ⟨spelled, ?_⟩
  rintro sign number rfl
  cases spelled with
  | signed _ _ _ isSign =>
      apply (coherent sign (by simp)).isLiteral_eq_false
      rcases isSign with isMinus | isPlus
      · simp [isMinus]
      · simp [isPlus]

theorem WritesGroups.spellsAlternatives
    {used : List Token} {groups : List (List Predicate)}
    (written : WritesGroups used groups) :
    SpellsAlternatives used groups := by
  refine Joined.imp written fun _ _ _ conjunction => ?_
  refine conjunction.imp fun _ _ _ equated => ?_
  exact equated.imp fun _ _ _ value => value.1

/-- What coherent tokens spell is written in them. -/
theorem SpellsAlternatives.writesGroups
    {used : List Token} {groups : List (List Predicate)}
    (spelled : SpellsAlternatives used groups)
    (coherent : ∀ token ∈ used, IsCoherent token) :
    WritesGroups used groups := by
  refine Joined.imp spelled fun _ _ inUsed conjunction => ?_
  refine conjunction.imp fun _ _ inGroup equated => ?_
  refine equated.imp fun _ _ inPredicate value => ?_
  exact value.writesValue fun token member => coherent token (inUsed (inGroup (inPredicate member)))

theorem spellsAlternatives_of_readCondition
    {tokens rest : List Token} {condition : Condition}
    (read : readCondition tokens = .ok condition rest) :
    ∃ used, tokens = used ++ rest ∧ SpellsAlternatives used condition.groups := by
  rcases (readCondition_eq_ok_iff _ _ _).1 read with ⟨used, rfl, written, -⟩
  exact ⟨used, rfl, written.spellsAlternatives⟩

/-- Every spelling of a condition is read when neither `AND` nor `OR` follows it. -/
theorem readCondition_of_spellsAlternatives
    {used rest : List Token} {condition : Condition}
    (spelled : SpellsAlternatives used condition.groups)
    (coherent : ∀ token ∈ used, IsCoherent token)
    (noAnd : startsWith .and rest = false)
    (noOr : startsWith .or rest = false) :
    readCondition (used ++ rest) = .ok condition rest :=
  (readCondition_eq_ok_iff _ _ _).2 ⟨used, rfl, spelled.writesGroups coherent, noAnd, noOr⟩

end FindQuery.Grammar
