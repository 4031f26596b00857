import FindQuery.Condition
import FindQuery.Grammar.Reader

/-!
# Reading a condition

```text
condition   := predicate ((AND | OR) predicate)*
predicate   := value comparison value
value       := int | float | string | ident | (MINUS | PLUS) (int | float)
```

Only the comparison for equality is accepted.  A condition ends before the first
token that is neither `AND` nor `OR`.
-/

namespace FindQuery.Grammar

/-- Reads a literal, or a sign and the number that follows it. -/
def readValue : TokenReader Value := fun tokens =>
  match tokens with
  | [] => .error ⟨.matchingClauseTruncated, []⟩ []
  | token :: rest =>
      match Value.ofToken? token with
      | some value => .ok value rest
      | none =>
          if token.kind = .minus ∨ token.kind = .plus then
            match rest with
            | [] => .error ⟨.matchingClauseTruncated, []⟩ (token :: rest)
            | number :: after =>
                if number.tag.isNumeric then
                  .ok ⟨if number.tag = .int then .int else .float, token.text ++ number.text⟩
                    after
                else
                  .error ⟨.unexpectedClause, token :: rest⟩ (token :: rest)
          else
            .error ⟨.unexpectedClause, token :: rest⟩ (token :: rest)

/-- Reads a comparison; a token that is none is taken all the same. -/
def readComparison : TokenReader Comparison := fun tokens =>
  match tokens with
  | [] => .error ⟨.matchingClauseTruncated, []⟩ []
  | token :: rest =>
      match (Comparison.ofKind? token.kind).filter Comparison.isResolved with
      | some comparison => .ok comparison rest
      | none => .error ⟨.expectedComparisonOperator, token :: rest⟩ rest

/-- Reads two values and the comparison between them. -/
def readPredicate : TokenReader Predicate := do
  let left ← readValue
  let comparison ← readComparison
  let right ← readValue
  return ⟨left, comparison, right⟩

theorem length_lt_of_readValue
    {tokens after : List Token} {value : Value}
    (read : readValue tokens = .ok value after) :
    after.length < tokens.length := by
  unfold readValue at read
  split at read
  · cases read
  · split at read
    · cases read
      simp
    · split at read
      · split at read
        · cases read
        · split at read
          · cases read
            simp only [List.length_cons]
            omega
          · cases read
      · cases read

theorem length_lt_of_readComparison
    {tokens after : List Token} {comparison : Comparison}
    (read : readComparison tokens = .ok comparison after) :
    after.length < tokens.length := by
  unfold readComparison at read
  split at read
  · cases read
  · split at read
    · cases read
      simp
    · cases read

/-- A predicate takes at least one token. -/
theorem length_lt_of_readPredicate
    {tokens after : List Token} {predicate : Predicate}
    (read : readPredicate tokens = .ok predicate after) :
    after.length < tokens.length := by
  simp only [readPredicate, bind, EStateM.bind] at read
  split at read
  · rename_i left afterLeft readLeft
    split at read
    · rename_i comparison afterComparison readMiddle
      split at read
      · rename_i right afterRight readRight
        cases read
        have := length_lt_of_readValue readLeft
        have := length_lt_of_readComparison readMiddle
        have := length_lt_of_readValue readRight
        omega
      · cases read
    · cases read
  · cases read

/-- Joins the predicates that follow to a condition. -/
def readFurther (condition : Condition) (tokens : List Token) :
    EStateM.Result Fault (List Token) Condition :=
  match tokens with
  | [] => .ok condition []
  | token :: rest =>
      match Connective.ofKind? token.kind with
      | none => .ok condition (token :: rest)
      | some connective =>
          match _ : readPredicate rest with
          | .error fault after => .error fault after
          | .ok predicate after => readFurther (condition.extend connective predicate) after
termination_by tokens.length
decreasing_by
  have shorter := length_lt_of_readPredicate (by assumption)
  simp only [List.length_cons]
  omega

/-- Reads a condition of at least one predicate. -/
def readCondition : TokenReader Condition := do
  let first ← readPredicate
  readFurther (Condition.empty.or first)

end FindQuery.Grammar
