import FindQuery.Proofs.Grammar.Decision
import FindQuery.Proofs.Grammar.Phrase

/-!
# How far readers look ahead

Every reader of the language decides what it does by the first tokens: by those that it takes
and the next one, or by those up to the second one after the place that it blames.  So no
later token can change an error or hide it.
-/

namespace FindQuery.Grammar

open FindQuery.Number
open FindQuery.Time

/-! ## Conditions -/

theorem decides_readValue : Decides readValue := by
  intro tokens
  cases tokens with
  | nil => exact isDecided_of_end rfl
  | cons token rest =>
      cases valued : Value.ofToken? token with
      | some value =>
          apply isDecided_of_taken [token]
          intro later
          simp only [List.cons_append, List.nil_append, readValue, valued]
          rfl
      | none =>
          by_cases signed : token.kind = .minus ∨ token.kind = .plus
          · cases rest with
            | nil =>
                apply isDecided_of_end
                simp only [readValue, valued, if_pos signed]
                rfl
            | cons number after =>
                by_cases numeric : number.tag.isNumeric = true
                · apply isDecided_of_taken [token, number]
                  intro later
                  simp only [List.cons_append, List.nil_append, readValue, valued,
                    if_pos signed, if_pos numeric]
                  rfl
                · apply isDecided_of_refused [token, number] (Nat.zero_le _) (by simp)
                  intro later
                  simp only [List.cons_append, List.nil_append, readValue, valued,
                    if_pos signed, if_neg numeric]
                  exact ⟨_, rfl⟩
          · apply isDecided_of_refused [token] (Nat.zero_le _) (by simp)
            intro later
            simp only [List.cons_append, List.nil_append, readValue, valued, if_neg signed]
            exact ⟨_, rfl⟩

theorem decides_readComparison : Decides readComparison := by
  intro tokens
  cases tokens with
  | nil => exact isDecided_of_end rfl
  | cons token rest =>
      cases compared : (Comparison.ofKind? token.kind).filter Comparison.isResolved with
      | some comparison =>
          apply isDecided_of_taken [token]
          intro later
          simp only [List.cons_append, List.nil_append, readComparison, compared]
          rfl
      | none =>
          apply isDecided_of_refused [token] (Nat.zero_le _) (by simp)
          intro later
          simp only [List.cons_append, List.nil_append, readComparison, compared]
          exact ⟨_, rfl⟩

theorem decides_readPredicate : Decides readPredicate := by
  apply decides_readValue.bind
  intro left
  apply decides_readComparison.bind
  intro comparison
  apply decides_readValue.bind
  intro right
  exact decides_pure _

/-- A connective is followed by a predicate, with which the condition goes on. -/
theorem readFurther_cons_eq_bind
    {word : Token} {connective : Connective}
    (joins : Connective.ofKind? word.kind = some connective)
    (condition : Condition) (tokens : List Token) :
    readFurther condition (word :: tokens) =
      (readPredicate >>= fun predicate =>
        readFurther (condition.extend connective predicate)) tokens := by
  cases read : readPredicate tokens with
  | ok predicate after =>
      rw [readFurther_cons joins read]
      exact (bind_of_ok read fun found => readFurther (condition.extend connective found)).symm
  | error fault after =>
      rw [readFurther_cons_of_error joins read]
      exact (bind_of_error read _).symm

/-- A condition goes on after a connective as the predicate after it and what follows. -/
theorem isDecided_readFurther_cons
    {word : Token} {connective : Connective}
    (joins : Connective.ofKind? word.kind = some connective)
    {condition : Condition} {rest : List Token}
    (onward : ∀ predicate after, readPredicate rest = .ok predicate after →
      IsDecided (readFurther (condition.extend connective predicate)) after
        (readFurther (condition.extend connective predicate) after)) :
    IsDecided (readFurther condition) (word :: rest) (readFurther condition (word :: rest)) := by
  have later := (decides_readPredicate rest).bind onward
  have bounded : 1 ≤ (word :: rest).length := by simp
  apply later.after bounded
  intro others same
  rcases exists_append_of_take_eq [word] (by simp) same with ⟨following, rfl⟩
  exact readFurther_cons_eq_bind joins condition following

theorem decides_readFurther (condition : Condition) : Decides (readFurther condition) := by
  intro tokens
  induction condition, tokens using readFurther.induct with
  | case1 condition =>
      rw [readFurther]
      refine ⟨0, Nat.zero_le _, rfl, ?_⟩
      intro others same
      rw [eq_of_take_eq (Nat.succ_pos 0) same, readFurther]
      rfl
  | case2 condition token rest noConnective =>
      have stops : ∀ later, readFurther condition (token :: later) =
          .ok condition (token :: later) := by
        intro later
        rw [readFurther]
        simp only [noConnective]
      rw [stops]
      refine ⟨0, Nat.zero_le _, rfl, ?_⟩
      intro others same
      rcases exists_append_of_take_eq [token] (Nat.le_refl 1) same with ⟨later, rfl⟩
      exact stops later
  | case3 condition token rest connective found fault after failed =>
      apply isDecided_readFurther_cons found
      intro predicate later read
      rw [failed] at read
      cases read
  | case4 condition token rest connective found predicate after read hypothesis =>
      apply isDecided_readFurther_cons found
      intro other later readAgain
      rw [read] at readAgain
      cases readAgain
      exact hypothesis

theorem decides_readCondition : Decides readCondition := by
  apply decides_readPredicate.bind
  intro first
  exact decides_readFurther _

/-! ## References and ranges of time -/

/-- The same result for two lists of tokens: one value, or one cause at one place. -/
inductive IsAlike {Value : Type} (tokens others : List Token) :
    EStateM.Result Fault (List Token) Value → EStateM.Result Fault (List Token) Value → Prop where
  | ok
      (value : Value) (rest left : List Token) :
      IsAlike tokens others (.ok value rest) (.ok value left)
  | error
      (cause : Cause) (place : Nat) (bounded : place ≤ tokens.length) (rest left : List Token) :
      IsAlike tokens others (.error ⟨cause, tokens.drop place⟩ rest)
        (.error ⟨cause, others.drop place⟩ left)

/-- A reader whose results depend on three tokens. -/
def ReadsAlike {Value : Type} (reader : TokenReader Value) : Prop :=
  ∀ tokens others, others.take 3 = tokens.take 3 →
    IsAlike tokens others (reader tokens) (reader others)

theorem readsAlike_failHere {Value : Type} (cause : Cause) :
    ReadsAlike (failHere cause : TokenReader Value) := by
  intro tokens others same
  exact .error cause 0 (Nat.zero_le _) tokens others

theorem readsAlike_taking (count : Nat) (reference : Reference) :
    ReadsAlike (taking count reference) := by
  intro tokens others same
  exact .ok reference _ _

theorem readsAlike_readDay : ReadsAlike readDay := by
  intro tokens others same
  rw [readDay, readDay, kindAt?_eq_of_take_eq (by decide) same,
    kindAt?_eq_of_take_eq (by decide) same]
  split
  · split
    · exact readsAlike_taking 3 _ _ _ same
    · exact readsAlike_taking 3 _ _ _ same
    · exact readsAlike_failHere _ _ _ same
  · exact readsAlike_failHere _ _ _ same
  · exact readsAlike_failHere _ _ _ same

theorem readsAlike_readLast : ReadsAlike readLast := by
  intro tokens others same
  rw [readLast, readLast, unitAt?, unitAt?, kindAt?_eq_of_take_eq (by decide) same]
  split
  · exact readsAlike_taking 2 _ _ _ same
  · exact readsAlike_failHere _ _ _ same

theorem readsAlike_readUnit (unit : TimeUnit) : ReadsAlike (readUnit unit) := by
  intro tokens others same
  rw [readUnit, readUnit, kindAt?_eq_of_take_eq (by decide) same,
    kindAt?_eq_of_take_eq (by decide) same]
  split
  · exact readsAlike_taking 3 _ _ _ same
  · split
    · exact readsAlike_failHere _ _ _ same
    · exact readsAlike_failHere _ _ _ same

theorem readsAlike_readCount (text : String) : ReadsAlike (readCount text) := by
  intro tokens others same
  rw [readCount, readCount, unitAt?, unitAt?, kindAt?_eq_of_take_eq (by decide) same,
    kindAt?_eq_of_take_eq (by decide) same]
  split
  · exact readsAlike_failHere _ _ _ same
  · split
    · exact readsAlike_failHere _ _ _ same
    · rename_i unit atOne
      split
      · exact readsAlike_taking 3 _ _ _ same
      · -- The unit before the place that is blamed is there.
        have bounded : 2 ≤ tokens.length := by
          rcases Option.bind_eq_some_iff.1 atOne with ⟨kind, found, -⟩
          rcases Option.map_eq_some_iff.1 found with ⟨name, there, -⟩
          exact (List.getElem?_eq_some_iff.1 there).1
        exact .error _ 2 bounded tokens others

theorem readsAlike_readLiteral (token : Token) : ReadsAlike (readLiteral token) := by
  rw [readLiteral]
  split
  · exact readsAlike_readCount _
  · exact readsAlike_failHere _
  · exact readsAlike_taking 1 _
  · exact readsAlike_failHere _

/-- Three tokens settle which reference there is, or why there is none. -/
theorem readsAlike_readReference : ReadsAlike readReference := by
  intro tokens others same
  cases tokens with
  | nil =>
      rw [eq_of_take_eq (by simp) same]
      exact readsAlike_failHere _ [] [] rfl
  | cons token rest =>
      rcases exists_append_of_take_eq [token] (by simp) same with ⟨later, rfl⟩
      simp only [List.cons_append, List.nil_append] at same ⊢
      rw [readReference, readReference]
      split
      · exact readsAlike_taking 1 _ _ _ same
      · exact readsAlike_taking 1 _ _ _ same
      · exact readsAlike_readDay _ _ same
      · exact readsAlike_readLast _ _ same
      · exact readsAlike_readLast _ _ same
      · exact readsAlike_readLiteral token _ _ same
      · split
        · exact readsAlike_readUnit _ _ _ same
        · exact readsAlike_failHere _ _ _ same

/-- A bound that is refused for what it names is refused at its first token. -/
theorem readsAlike_readBound (now : Instant) (bound : Bound) :
    ReadsAlike (readBound now bound) := by
  intro tokens others same
  have alike := readsAlike_readReference tokens others same
  rw [readBound, readBound]
  generalize readReference tokens = result at alike
  generalize readReference others = otherResult at alike
  cases alike with
  | ok reference rest left =>
      simp only
      split
      · exact .ok _ rest left
      · exact .error _ 0 (Nat.zero_le _) rest left
  | error cause place bounded rest left => exact .error cause place bounded rest left

theorem IsAlike.exists_error
    {Value : Type} {tokens others rest : List Token} {cause : Cause} {place : Nat}
    {result : EStateM.Result Fault (List Token) Value} (bounded : place ≤ tokens.length)
    (alike : IsAlike tokens others (.error ⟨cause, tokens.drop place⟩ rest) result) :
    ∃ left, result = .error ⟨cause, others.drop place⟩ left := by
  generalize blamed : Fault.mk cause (tokens.drop place) = fault at alike
  cases alike with
  | error other otherPlace otherBounded otherRest left =>
      rcases Fault.mk.inj blamed with ⟨rfl, sameRest⟩
      have lengths := congrArg List.length sameRest
      rw [List.length_drop, List.length_drop] at lengths
      obtain rfl : place = otherPlace := by omega
      exact ⟨left, rfl⟩

/-- A fault that three tokens settle is decided. -/
theorem ReadsAlike.isDecided_of_error
    {Value : Type} {reader : TokenReader Value} (alike : ReadsAlike reader)
    {tokens rest : List Token} {fault : Fault} (failed : reader tokens = .error fault rest) :
    IsDecided reader tokens (reader tokens) := by
  have here := alike tokens tokens rfl
  have there := alike tokens
  rw [failed] at here there ⊢
  cases here with
  | error cause place bounded =>
      refine ⟨place, bounded, rfl, ?_⟩
      intro others same
      exact (there others (take_eq_of_le (Nat.le_add_left 3 place) same)).exists_error bounded

/-- A bound is decided by its phrase, and by three tokens where it is refused. -/
theorem decides_readBound (now : Instant) (bound : Bound) : Decides (readBound now bound) := by
  intro tokens
  cases read : readBound now bound tokens with
  | ok nanos rest =>
      rcases (readBound_eq_ok_iff _ _ _ _ _).1 read with ⟨reference, spelled, resolved⟩
      rcases exists_phrase_of_readReference spelled with ⟨phrase, rfl, again⟩
      rw [← read]
      apply isDecided_of_taken phrase
      intro later
      exact (readBound_eq_ok_iff _ _ _ _ _).2 ⟨reference, again later, resolved⟩
  | error fault rest =>
      rw [← read]
      exact (readsAlike_readBound now bound).isDecided_of_error read

theorem decides_readNow (now : Instant) : Decides (readNow now) := by
  rw [readNow]
  split
  · exact decides_pure _
  · exact decides_failHere _

theorem decides_readSince (now : Instant) : Decides (readSince now) := by
  apply (decides_readBound now .opening).bind
  intro opening
  apply (decides_readNow now).bind
  intro present
  exact decides_pure _

theorem decides_readBetween (now : Instant) : Decides (readBetween now) := by
  apply (decides_readBound now .opening).bind
  intro opening
  apply (decides_eat .and).bind
  intro joined
  apply Decides.ite
  · apply (decides_readBound now .closing).bind
    intro closing
    exact decides_pure _
  · exact decides_failHere _

theorem decides_readRange (now : Instant) : Decides (readRange now) := by
  apply (decides_eat .since).bind
  intro since
  apply Decides.ite
  · exact decides_readSince now
  · apply (decides_eat .between).bind
    intro between
    apply Decides.ite
    · exact decides_readBetween now
    · exact decides_failHere _

/-! ## Statements -/

theorem decides_readField : Decides readField := by
  intro tokens
  cases tokens with
  | nil => exact isDecided_of_end rfl
  | cons name rest =>
      by_cases starts : startsField name = true
      · by_cases renames : startsWith .rename rest = true
        · cases rest with
          | nil => cases renames
          | cons word others =>
              have renamed : ∀ later, startsWith .rename (word :: later) = true :=
                fun later => renames
              cases others with
              | nil =>
                  apply isDecided_of_end
                  simp only [readField, if_pos starts, if_pos renames, List.tail_cons]
                  rfl
              | cons label after =>
                  by_cases named : label.tag.isName = true
                  · apply isDecided_of_taken [name, word, label]
                    intro later
                    simp only [List.cons_append, List.nil_append, readField, if_pos starts,
                      if_pos (renamed _), List.tail_cons, if_pos named]
                    rfl
                  · apply isDecided_of_refused [name, word, label] (Nat.le_succ 2) (by simp)
                    intro later
                    simp only [List.cons_append, List.nil_append, readField, if_pos starts,
                      if_pos (renamed _), List.tail_cons, if_neg named]
                    exact ⟨_, rfl⟩
        · have plain : ∀ later, startsWith .rename later ≠ true →
              readField (name :: later) = .ok (Field.plain name.text) later := by
            intro later renamesNot
            simp only [readField, if_pos starts, if_neg renamesNot]
          rw [plain rest renames]
          refine ⟨1, by simp, rfl, ?_⟩
          intro others same
          rcases exists_append_of_take_eq [name] (by simp) same with ⟨later, rfl⟩
          have sameNext : later.take 1 = rest.take 1 := by
            simpa using same
          rw [← startsWith_eq_of_take_eq sameNext] at renames
          exact plain later renames
      · apply isDecided_of_refused [name] (Nat.zero_le _) (by simp)
        intro later
        simp only [List.cons_append, List.nil_append, readField, if_neg starts]
        exact ⟨_, rfl⟩

/-- Reads at least one more field and puts a given one before them. -/
def readFieldsAfter (field : Field) : TokenReader (List Field) := do
  let fields ← readFields
  return field :: fields

/-- Reads the fields that a comma asks for after a first one. -/
def readFurtherFields (field : Field) : TokenReader (List Field) := fun tokens =>
  if startsWith .comma tokens then
    if startsWithName tokens.tail then
      readFieldsAfter field tokens.tail
    else
      .error ⟨.expectedField, tokens.tail⟩ tokens
  else
    .ok [field] tokens

theorem readFields_eq_bind (tokens : List Token) :
    readFields tokens = (readField >>= readFurtherFields) tokens := by
  rw [readFields_eq]
  cases read : readField tokens with
  | error fault rest => rw [bind_of_error read]
  | ok field rest =>
      rw [bind_of_ok read, readFurtherFields]
      simp only
      split
      · split
        · cases readTail : readFields rest.tail with
          | error fault later => exact (bind_of_error readTail _).symm
          | ok fields later => exact (bind_of_ok readTail fun others => pure (field :: others)).symm
        · rfl
      · rfl

theorem isDecided_readFieldsAfter
    (field : Field) {tokens : List Token}
    (decided : IsDecided readFields tokens (readFields tokens)) :
    IsDecided (readFieldsAfter field) tokens (readFieldsAfter field tokens) := by
  apply decided.bind
  intro fields rest read
  exact decides_pure _ _

/-- The fields after a first one are decided if those after its comma are. -/
theorem isDecided_readFurtherFields
    (field : Field) (tokens : List Token)
    (decided : startsWith .comma tokens = true →
      IsDecided readFields tokens.tail (readFields tokens.tail)) :
    IsDecided (readFurtherFields field) tokens (readFurtherFields field tokens) := by
  by_cases separated : startsWith .comma tokens = true
  · cases tokens with
    | nil => cases separated
    | cons comma rest =>
        have isComma : ∀ later, startsWith .comma (comma :: later) = true :=
          fun later => separated
        cases rest with
        | nil =>
            apply isDecided_of_end
            simp only [readFurtherFields, if_pos separated]
            rfl
        | cons name after =>
            by_cases named : startsWithName (name :: after) = true
            · have goesOn : ∀ later, readFurtherFields field (comma :: name :: later) =
                  readFieldsAfter field (name :: later) := by
                intro later
                have isNamed : startsWithName (name :: later) = true := named
                rw [readFurtherFields, if_pos (isComma _), List.tail_cons, if_pos isNamed]
              have laterDecided := isDecided_readFieldsAfter field (decided separated)
              have bounded : 1 ≤ (comma :: name :: after).length := by simp
              apply laterDecided.after bounded
              intro others same
              rcases exists_append_of_take_eq [comma, name] (by simp) same with ⟨later, rfl⟩
              exact goesOn later
            · have refused : ∀ later, readFurtherFields field (comma :: name :: later) =
                  .error ⟨.expectedField, name :: later⟩ (comma :: name :: later) := by
                intro later
                have unnamed : ¬ startsWithName (name :: later) = true := named
                rw [readFurtherFields, if_pos (isComma _), List.tail_cons, if_neg unnamed]
              apply isDecided_of_refused [comma, name] (Nat.le_succ 1) (by simp)
              intro later
              exact ⟨_, refused later⟩
  · rw [readFurtherFields, if_neg separated]
    refine ⟨0, Nat.zero_le _, rfl, ?_⟩
    intro others same
    rw [← startsWith_eq_of_take_eq same] at separated
    rw [readFurtherFields, if_neg separated, List.drop_zero]

theorem decides_readFields : Decides readFields := by
  intro tokens
  induction length : tokens.length using Nat.strong_induction_on generalizing tokens with
  | _ count hypothesis =>
      have decided : IsDecided (readField >>= readFurtherFields) tokens
          ((readField >>= readFurtherFields) tokens) := by
        apply (decides_readField tokens).bind
        intro field rest read
        apply isDecided_readFurtherFields
        intro separated
        have shorter := length_lt_of_readField read
        have tail : rest.tail.length < count := by
          rw [List.length_tail]
          omega
        exact hypothesis _ tail _ rfl
      have same : (readField >>= readFurtherFields) = readFields := by
        funext others
        exact (readFields_eq_bind others).symm
      rwa [same] at decided

/-- Reads fields as a selection. -/
def readNamedFields : TokenReader (Bool × List Field) := do
  let fields ← readFields
  return (false, fields)

theorem decides_readNamedFields : Decides readNamedFields := by
  apply decides_readFields.bind
  intro fields
  exact decides_pure _

theorem readSelection_of_startsWithName
    {tokens : List Token} (notAll : ¬ startsWith .all tokens = true)
    (notComma : ¬ startsWith .comma tokens = true) (named : startsWithName tokens = true) :
    readSelection tokens = readNamedFields tokens := by
  rw [readSelection, if_neg notAll, if_neg notComma, if_pos named]
  cases read : readFields tokens with
  | error fault rest => exact (bind_of_error read _).symm
  | ok fields rest => exact (bind_of_ok read fun others => pure (false, others)).symm

theorem decides_readSelection : Decides readSelection := by
  intro tokens
  cases tokens with
  | nil => exact isDecided_of_end rfl
  | cons token rest =>
      by_cases isAll : startsWith .all (token :: rest) = true
      · apply isDecided_of_taken [token]
        intro later
        exact if_pos isAll
      · by_cases isComma : startsWith .comma (token :: rest) = true
        · apply isDecided_of_refused [token] (Nat.zero_le _) (by simp)
          intro later
          exact ⟨token :: later, (if_neg isAll).trans (if_pos isComma)⟩
        · by_cases named : startsWithName (token :: rest) = true
          · have chosen : ∀ later, readSelection (token :: later) =
                readNamedFields (token :: later) := by
              intro later
              exact readSelection_of_startsWithName isAll isComma named
            apply (decides_readNamedFields (token :: rest)).after (Nat.zero_le _)
            intro others same
            rcases exists_append_of_take_eq [token] (Nat.le_refl 1) same with ⟨later, rfl⟩
            exact chosen later
          · apply isDecided_of_refused [token] (Nat.zero_le _) (by simp)
            intro later
            exact ⟨token :: later,
              (if_neg isAll).trans ((if_neg isComma).trans (if_neg named))⟩

theorem decides_readMatching : Decides readMatching := by
  apply (decides_eat .matching).bind
  intro present
  apply Decides.ite
  · apply decides_readCondition.bind
    intro condition
    exact decides_pure _
  · exact decides_pure _

theorem decides_readEnd : Decides readEnd := by
  intro tokens
  cases tokens with
  | nil =>
      refine ⟨0, Nat.zero_le _, rfl, ?_⟩
      intro others same
      rw [eq_of_take_eq (Nat.succ_pos 0) same]
      rfl
  | cons token rest =>
      apply isDecided_of_refused [token] (Nat.zero_le _) (by simp)
      intro later
      exact ⟨_, rfl⟩

theorem decides_readStatement (now : Instant) (remainder : List Token) :
    Decides (readStatement now remainder) := by
  apply (decides_eat .find).bind
  intro found
  apply Decides.ite
  · apply decides_readSelection.bind
    intro selection
    apply decides_readMatching.bind
    intro condition
    apply (decides_readRange now).bind
    intro range
    apply decides_readEnd.bind
    intro nothing
    exact decides_pure _
  · exact decides_failHere _

/-! ## Errors -/

/-- Reading some tokens fails for a cause at the token so many places on, or at the end. -/
def FailsAt (now : Instant) (tokens : List Token) (cause : Cause) (place : Nat) : Prop :=
  place ≤ tokens.length ∧
    ∃ rest, readStatement now [] tokens = .error ⟨cause, tokens.drop place⟩ rest

/-- A statement that is refused is refused at one of its tokens or at its end. -/
theorem exists_failsAt
    {now : Instant} {tokens rest : List Token} {fault : Fault}
    (failed : readStatement now [] tokens = .error fault rest) :
    ∃ place, FailsAt now tokens fault.cause place ∧ fault.rest = tokens.drop place := by
  have decided := decides_readStatement now [] tokens
  rw [failed] at decided
  rcases decided with ⟨place, bounded, blamed, -⟩
  refine ⟨place, ⟨bounded, rest, ?_⟩, blamed⟩
  rw [failed, ← blamed]

/-- What two tokens after the place of an error are does not matter to it. -/
theorem FailsAt.of_take_eq
    {now : Instant} {tokens others : List Token} {cause : Cause} {place : Nat}
    (fails : FailsAt now tokens cause place)
    (same : others.take (place + 3) = tokens.take (place + 3)) :
    FailsAt now others cause place := by
  rcases fails with ⟨bounded, rest, failed⟩
  have decided := decides_readStatement now [] tokens
  rw [failed] at decided
  rcases decided with ⟨found, foundBounded, blamed, again⟩
  have lengths := congrArg List.length blamed
  rw [List.length_drop, List.length_drop] at lengths
  obtain rfl : found = place := by omega
  exact ⟨le_length_of_take_eq bounded (Nat.le_add_right _ 3) same, again others same⟩

/-- Tokens without a pipe are refused where they fail as a statement. -/
theorem ofTokens_eq_error_iff
    {tokens : List Token} (unpiped : ∀ token ∈ tokens, token.kind ≠ .pipe)
    (now : Instant) (source : String) (error : QueryError) :
    Query.ofTokens source tokens now = .error error ↔
      ∃ place, FailsAt now tokens error.cause place ∧
        error.location = locationOf source (tokens.drop place) := by
  rcases (partsAtPipe_iff tokens tokens []).1 (.whole unpiped) with ⟨statement, remainder⟩
  rw [Query.ofTokens, statement, remainder]
  constructor
  · intro failed
    cases read : readStatement now [] tokens with
    | ok query rest =>
        rw [read] at failed
        cases failed
    | error fault rest =>
        rw [read] at failed
        cases failed
        rcases exists_failsAt read with ⟨place, fails, blamed⟩
        refine ⟨place, fails, ?_⟩
        rw [Fault.toError, blamed]
  · rintro ⟨place, ⟨bounded, rest, failed⟩, located⟩
    rw [failed]
    cases error
    simp only [Fault.toError] at located ⊢
    rw [located]

/--
An error in tokens without a pipe is at one of them or at their end.  Any other tokens
without a pipe that agree with them up to the second token after that place have the same
error at the same place, whatever follows.
-/
theorem ofTokens_error_of_take_eq
    {now : Instant} {tokens others : List Token}
    (unpiped : ∀ token ∈ tokens, token.kind ≠ .pipe)
    (othersUnpiped : ∀ token ∈ others, token.kind ≠ .pipe) :
    (∀ source error, Query.ofTokens source tokens now = .error error ↔
        ∃ place, FailsAt now tokens error.cause place ∧
          error.location = locationOf source (tokens.drop place)) ∧
      ∀ cause place, FailsAt now tokens cause place →
        others.take (place + 3) = tokens.take (place + 3) →
          FailsAt now others cause place ∧
            ∀ source, Query.ofTokens source others now =
              .error ⟨cause, locationOf source (others.drop place)⟩ := by
  constructor
  · intro source error
    exact ofTokens_eq_error_iff unpiped now source error
  · intro cause place fails same
    have failsToo := fails.of_take_eq same
    refine ⟨failsToo, ?_⟩
    intro source
    exact (ofTokens_eq_error_iff othersUnpiped now source _).2 ⟨place, failsToo, rfl⟩

/-- The tokens of `find all since 9e9 centuries ago`. -/
def centuriesAgoTokens : List Token :=
  [⟨.find, .command, "find", ⟨0, 4⟩⟩, ⟨.all, .selector, "all", ⟨5, 8⟩⟩,
    ⟨.since, .temporal, "since", ⟨9, 14⟩⟩, ⟨.literal, .int, "9e9", ⟨15, 18⟩⟩,
    ⟨.century, .calendars, "centuries", ⟨19, 28⟩⟩, ⟨.ago, .relative, "ago", ⟨29, 32⟩⟩]

/-- A comma and a name after them. -/
def centuriesAgoTokensOn : List Token :=
  centuriesAgoTokens ++ [⟨.comma, .comma, ",", ⟨32, 33⟩⟩, ⟨.literal, .ident, "a", ⟨34, 35⟩⟩]

/-- A reference that goes back too far is refused at its number, also before a misplaced comma. -/
theorem centuriesAgoTokens_error :
    FailsAt default centuriesAgoTokens .invalidTemporalReference 3 ∧
      centuriesAgoTokensOn.take 6 = centuriesAgoTokens.take 6 ∧
        FailsAt default centuriesAgoTokensOn .invalidTemporalReference 3 ∧
          ∀ source, Query.ofTokens source centuriesAgoTokensOn default =
            .error ⟨.invalidTemporalReference,
              locationOf source (centuriesAgoTokensOn.drop 3)⟩ := by
  have fails : FailsAt default centuriesAgoTokens .invalidTemporalReference 3 :=
    ⟨by decide, _, rfl⟩
  have same : centuriesAgoTokensOn.take 6 = centuriesAgoTokens.take 6 := by
    rfl
  have stable := (ofTokens_error_of_take_eq (by decide) (by decide)).2 _ _ fails same
  exact ⟨fails, same, stable⟩

end FindQuery.Grammar
