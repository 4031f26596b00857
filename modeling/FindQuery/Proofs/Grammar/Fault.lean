import FindQuery.Proofs.Grammar.Statement

/-!
# What readers leave and what they blame

A reader leaves an end of the tokens that it was given.  When it fails it blames a
place among them, and it blames the statement, not the way it was cut into tokens.
-/

namespace FindQuery

/-- Whether a cause keeps a query from being cut into tokens. -/
def Cause.isLexical : Cause → Bool
  | .lexical _ => true
  | _ => false

theorem Cause.isInternal_eq_false
    {cause : Cause} (grammatical : cause.isLexical = false) : cause.isInternal = false := by
  cases cause with
  | lexical found => cases grammatical
  | _ => rfl

namespace Grammar

open FindQuery.Number
open FindQuery.Time

/-- A result that leaves an end of some tokens, or blames one for what it is. -/
def IsOrderly {Value : Type} (tokens : List Token) :
    EStateM.Result Fault (List Token) Value → Prop
  | .ok _ rest => rest <:+ tokens
  | .error fault _ => fault.rest <:+ tokens ∧ fault.cause.isLexical = false

/-- A reader all of whose results are orderly. -/
def Orderly {Value : Type} (reader : TokenReader Value) : Prop :=
  ∀ tokens, IsOrderly tokens (reader tokens)

section

variable {First Second : Type}

/-- What is orderly for an end of some tokens is so for the tokens. -/
theorem IsOrderly.of_isSuffix
    {tokens later : List Token} {result : EStateM.Result Fault (List Token) First}
    (orderly : IsOrderly later result) (suffix : later <:+ tokens) :
    IsOrderly tokens result := by
  cases result with
  | ok value rest => exact orderly.trans suffix
  | error fault rest => exact ⟨orderly.1.trans suffix, orderly.2⟩

theorem orderly_pure (value : First) : Orderly (pure value) := by
  intro tokens
  exact List.suffix_refl tokens

theorem isOrderly_failHere
    {cause : Cause} (grammatical : cause.isLexical = false)
    {tokens later : List Token} (suffix : later <:+ tokens) :
    IsOrderly tokens ((failHere cause : TokenReader First) later) :=
  ⟨suffix, grammatical⟩

theorem orderly_failHere {cause : Cause} (grammatical : cause.isLexical = false) :
    Orderly (failHere cause : TokenReader First) := by
  intro tokens
  exact isOrderly_failHere grammatical (List.suffix_refl tokens)

/-- Orderly readers in sequence make up an orderly reader. -/
theorem Orderly.bind
    {reader : TokenReader First} {next : First → TokenReader Second}
    (orderly : Orderly reader) (onward : ∀ value, Orderly (next value)) :
    Orderly (reader >>= next) := by
  intro tokens
  change IsOrderly tokens (EStateM.bind reader next tokens)
  have here := orderly tokens
  rw [EStateM.bind]
  cases read : reader tokens with
  | ok value rest =>
      rw [read] at here
      exact (onward value rest).of_isSuffix here
  | error fault rest =>
      rw [read] at here
      exact here

theorem Orderly.ite
    {condition : Prop} [Decidable condition] {reader other : TokenReader First}
    (positive : Orderly reader) (negative : Orderly other) :
    Orderly (if condition then reader else other) := by
  split
  · exact positive
  · exact negative

end

theorem orderly_eat (kind : Kind) : Orderly (eat kind) := by
  intro tokens
  rw [eat]
  split
  · exact List.tail_suffix tokens
  · exact List.suffix_refl tokens

/-! ## Conditions -/

theorem orderly_readValue : Orderly readValue := by
  intro tokens
  cases tokens with
  | nil => exact ⟨List.suffix_refl _, rfl⟩
  | cons token rest =>
      simp only [readValue]
      split
      · exact List.suffix_cons token rest
      · split
        · split
          · exact ⟨List.nil_suffix, rfl⟩
          · split
            · exact (List.suffix_cons _ _).trans (List.suffix_cons _ _)
            · exact ⟨List.suffix_refl _, rfl⟩
        · exact ⟨List.suffix_refl _, rfl⟩

theorem orderly_readComparison : Orderly readComparison := by
  intro tokens
  cases tokens with
  | nil => exact ⟨List.suffix_refl _, rfl⟩
  | cons token rest =>
      rw [readComparison]
      split
      · exact List.suffix_cons token rest
      · exact ⟨List.suffix_refl _, rfl⟩

theorem orderly_readPredicate : Orderly readPredicate := by
  apply orderly_readValue.bind
  intro left
  apply orderly_readComparison.bind
  intro comparison
  apply orderly_readValue.bind
  intro right
  exact orderly_pure _

theorem orderly_readFurther (condition : Condition) : Orderly (readFurther condition) := by
  intro tokens
  induction condition, tokens using readFurther.induct with
  | case1 condition =>
      rw [readFurther]
      exact List.suffix_refl _
  | case2 condition token rest noConnective =>
      rw [readFurther]
      simp only [noConnective]
      exact List.suffix_refl _
  | case3 condition token rest connective found fault after failed =>
      have here := orderly_readPredicate rest
      rw [failed] at here
      rw [readFurther_cons_of_error found failed]
      exact IsOrderly.of_isSuffix here (List.suffix_cons token rest)
  | case4 condition token rest connective found predicate after read hypothesis =>
      have here := orderly_readPredicate rest
      rw [read] at here
      rw [readFurther_cons found read]
      exact hypothesis.of_isSuffix (List.IsSuffix.trans here (List.suffix_cons token rest))

theorem orderly_readCondition : Orderly readCondition := by
  apply orderly_readPredicate.bind
  intro first
  exact orderly_readFurther _

/-! ## References and ranges of time -/

theorem orderly_taking (count : Nat) (reference : Reference) :
    Orderly (taking count reference) := by
  intro tokens
  exact List.drop_suffix count tokens

theorem orderly_readDay : Orderly readDay := by
  intro tokens
  rw [readDay]
  split
  · split
    · exact orderly_taking 3 _ tokens
    · exact orderly_taking 3 _ tokens
    · exact orderly_failHere rfl tokens
  · exact orderly_failHere rfl tokens
  · exact orderly_failHere rfl tokens

theorem orderly_readLast : Orderly readLast := by
  intro tokens
  rw [readLast]
  split
  · exact orderly_taking 2 _ tokens
  · exact orderly_failHere rfl tokens

theorem orderly_readUnit (unit : TimeUnit) : Orderly (readUnit unit) := by
  intro tokens
  rw [readUnit]
  split
  · exact orderly_taking 3 _ tokens
  · split
    · exact orderly_failHere rfl tokens
    · exact orderly_failHere rfl tokens

theorem orderly_readCount (text : String) : Orderly (readCount text) := by
  intro tokens
  rw [readCount]
  split
  · exact orderly_failHere rfl tokens
  · split
    · exact orderly_failHere rfl tokens
    · split
      · exact orderly_taking 3 _ tokens
      · exact ⟨List.drop_suffix 2 tokens, rfl⟩

theorem orderly_readLiteral (token : Token) : Orderly (readLiteral token) := by
  rw [readLiteral]
  split
  · exact orderly_readCount _
  · exact orderly_failHere rfl
  · exact orderly_taking 1 _
  · exact orderly_failHere rfl

theorem orderly_readReference : Orderly readReference := by
  intro tokens
  cases tokens with
  | nil => exact orderly_failHere rfl []
  | cons token rest =>
      rw [readReference]
      split
      · exact orderly_taking 1 _ _
      · exact orderly_taking 1 _ _
      · exact orderly_readDay _
      · exact orderly_readLast _
      · exact orderly_readLast _
      · exact orderly_readLiteral token _
      · split
        · exact orderly_readUnit _ _
        · exact orderly_failHere rfl _

theorem orderly_readBound (now : Instant) (bound : Bound) : Orderly (readBound now bound) := by
  intro tokens
  have here := orderly_readReference tokens
  rw [readBound]
  cases read : readReference tokens with
  | error fault rest =>
      rw [read] at here
      exact here
  | ok reference rest =>
      rw [read] at here
      simp only
      split
      · exact here
      · exact ⟨List.suffix_refl tokens, rfl⟩

theorem orderly_readNow (now : Instant) : Orderly (readNow now) := by
  rw [readNow]
  split
  · exact orderly_pure _
  · exact orderly_failHere rfl

theorem orderly_readSince (now : Instant) : Orderly (readSince now) := by
  apply (orderly_readBound now .opening).bind
  intro opening
  apply (orderly_readNow now).bind
  intro present
  exact orderly_pure _

theorem orderly_readBetween (now : Instant) : Orderly (readBetween now) := by
  apply (orderly_readBound now .opening).bind
  intro opening
  apply (orderly_eat .and).bind
  intro joined
  apply Orderly.ite
  · apply (orderly_readBound now .closing).bind
    intro closing
    exact orderly_pure _
  · exact orderly_failHere rfl

theorem orderly_readRange (now : Instant) : Orderly (readRange now) := by
  apply (orderly_eat .since).bind
  intro since
  apply Orderly.ite
  · exact orderly_readSince now
  · apply (orderly_eat .between).bind
    intro between
    apply Orderly.ite
    · exact orderly_readBetween now
    · exact orderly_failHere rfl

/-! ## Statements -/

theorem orderly_readField : Orderly readField := by
  intro tokens
  cases tokens with
  | nil => exact orderly_failHere rfl []
  | cons name rest =>
      have inside : rest.tail <:+ name :: rest :=
        (List.tail_suffix rest).trans (List.suffix_cons name rest)
      rw [readField]
      split
      · split
        · split
          · exact isOrderly_failHere rfl List.nil_suffix
          · rename_i label after same
            rw [same] at inside
            split
            · exact (List.suffix_cons label after).trans inside
            · exact ⟨inside, rfl⟩
        · exact List.suffix_cons name rest
      · exact ⟨List.suffix_refl _, rfl⟩

theorem orderly_readFields : Orderly readFields := by
  intro tokens
  induction tokens using readFields.induct with
  | case1 tokens fault after failed =>
      have here := orderly_readField tokens
      rw [failed] at here
      rw [readFields_eq, failed]
      exact here
  | case2 tokens field after read hasComma hasName fault later failed hypothesis =>
      have here := orderly_readField tokens
      rw [read] at here
      rw [failed] at hypothesis
      rw [readFields_eq, read]
      simp only [hasComma, hasName, if_true, failed]
      exact hypothesis.of_isSuffix ((List.tail_suffix after).trans here)
  | case3 tokens field after read hasComma hasName fields later readLater hypothesis =>
      have here := orderly_readField tokens
      rw [read] at here
      rw [readLater] at hypothesis
      rw [readFields_eq, read]
      simp only [hasComma, hasName, if_true, readLater]
      exact List.IsSuffix.trans hypothesis ((List.tail_suffix after).trans here)
  | case4 tokens field after read hasComma noName =>
      have here := orderly_readField tokens
      rw [read] at here
      rw [readFields_eq, read]
      simp only [hasComma, if_true, if_neg noName]
      exact ⟨(List.tail_suffix after).trans here, rfl⟩
  | case5 tokens field after read noComma =>
      have here := orderly_readField tokens
      rw [read] at here
      rw [readFields_eq, read]
      simp only [if_neg noComma]
      exact here

theorem orderly_readSelection : Orderly readSelection := by
  intro tokens
  rw [readSelection]
  split
  · exact List.tail_suffix tokens
  · split
    · exact orderly_failHere rfl tokens
    · split
      · have here := orderly_readFields tokens
        cases read : readFields tokens with
        | error fault rest =>
            rw [read] at here
            exact here
        | ok fields rest =>
            rw [read] at here
            exact here
      · exact orderly_failHere rfl tokens

theorem orderly_readMatching : Orderly readMatching := by
  apply (orderly_eat .matching).bind
  intro present
  apply Orderly.ite
  · apply orderly_readCondition.bind
    intro condition
    exact orderly_pure _
  · exact orderly_pure _

theorem orderly_readEnd : Orderly readEnd := by
  intro tokens
  rw [readEnd]
  split
  · exact List.suffix_refl tokens
  · exact orderly_failHere rfl tokens

/-- A statement that is refused is refused for one of its tokens or for its end. -/
theorem orderly_readStatement (now : Instant) (remainder : List Token) :
    Orderly (readStatement now remainder) := by
  apply (orderly_eat .find).bind
  intro found
  apply Orderly.ite
  · apply orderly_readSelection.bind
    intro selection
    apply orderly_readMatching.bind
    intro condition
    apply (orderly_readRange now).bind
    intro range
    apply orderly_readEnd.bind
    intro nothing
    exact orderly_pure _
  · exact orderly_failHere rfl

end Grammar

end FindQuery
