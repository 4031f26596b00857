import FindQuery.Proofs.Grammar.Relabelling

/-!
# Queries and their respellings

A query and the query of its spelled tokens are read alike: both are refused for the
same cause, or both are accepted and ask for the same.  Only places differ.
-/

namespace FindQuery.Query

open FindQuery.Grammar
open FindQuery.Lexis
open FindQuery.Time

/-- Outcomes that differ in nothing but the places of tokens and of errors. -/
inductive SameReading : Except QueryError Query → Except QueryError Query → Prop where
  | ok
      {left right : Query}
      (fields : left.fields = right.fields)
      (all : left.all = right.all)
      (condition : left.condition = right.condition)
      (range : left.range = right.range)
      (remainder : left.remainder.map Token.contents = right.remainder.map Token.contents) :
      SameReading (.ok left) (.ok right)
  | error
      {left right : QueryError}
      (cause : left.cause = right.cause) :
      SameReading (.error left) (.error right)

theorem statementTokens_map_unplaced (tokens : List Token) :
    statementTokens (tokens.map unplaced) = (statementTokens tokens).map unplaced := by
  rw [statementTokens, statementTokens, List.takeWhile_map]
  rfl

theorem remainderTokens_map_unplaced (tokens : List Token) :
    remainderTokens (tokens.map unplaced) = (remainderTokens tokens).map unplaced := by
  rw [remainderTokens, remainderTokens, List.dropWhile_map, List.map_tail]
  rfl

/-- Tokens of the same contents are read alike, whatever texts they come from. -/
theorem sameReading_ofTokens
    {tokens copies : List Token}
    (same : tokens.map Token.contents = copies.map Token.contents)
    (source other : String) (now : Instant) :
    SameReading (ofTokens source tokens now) (ofTokens other copies now) := by
  have unplacedSame := (map_unplaced_eq_iff tokens copies).2 same
  have statements : (statementTokens tokens).map unplaced =
      (statementTokens copies).map unplaced := by
    rw [← statementTokens_map_unplaced, unplacedSame, statementTokens_map_unplaced]
  have remainders : (remainderTokens tokens).map unplaced =
      (remainderTokens copies).map unplaced := by
    rw [← remainderTokens_map_unplaced, unplacedSame, remainderTokens_map_unplaced]
  have results :
      relabelResult unplaced (relabelRemainder unplaced)
          (readStatement now (remainderTokens tokens) (statementTokens tokens)) =
        relabelResult unplaced (relabelRemainder unplaced)
          (readStatement now (remainderTokens copies) (statementTokens copies)) := by
    rw [← mirrors_readStatement isRelabelling_unplaced now _ _,
      ← mirrors_readStatement isRelabelling_unplaced now _ _, statements, remainders]
  rw [ofTokens, ofTokens]
  cases left : readStatement now (remainderTokens tokens) (statementTokens tokens) with
  | ok query rest =>
      cases right : readStatement now (remainderTokens copies) (statementTokens copies) with
      | ok copy otherRest =>
          rw [left, right] at results
          simp only [relabelResult, relabelRemainder, EStateM.Result.ok.injEq,
            Query.mk.injEq] at results
          rcases results with ⟨⟨fields, all, condition, range, remainder⟩, -⟩
          exact .ok fields all condition range ((map_unplaced_eq_iff _ _).1 remainder)
      | error fault otherRest =>
          rw [left, right] at results
          cases results
  | error fault rest =>
      cases right : readStatement now (remainderTokens copies) (statementTokens copies) with
      | ok copy otherRest =>
          rw [left, right] at results
          cases results
      | error otherFault otherRest =>
          rw [left, right] at results
          simp only [relabelResult, EStateM.Result.error.injEq, Fault.mk.injEq] at results
          exact .error results.1.1

/--
The spellings of the tokens of a query, joined with one space, have the same tokens
at other places, and the joined text is read as the query is, whatever the present.
-/
theorem sameReading_respelled
    {query : String} {tokens : List Token} (tokenized : tokenize query = .ok tokens) :
    ∃ copies,
      tokenize (" ".intercalate (tokens.map Token.source)) = .ok copies ∧
        copies.map Token.contents = tokens.map Token.contents ∧
          ∀ now,
            SameReading (parse query now)
              (parse (" ".intercalate (tokens.map Token.source)) now) := by
  rcases exists_tokenize_intercalate_source tokenized with ⟨copies, rebuilt, same⟩
  refine ⟨copies, rebuilt, same, ?_⟩
  intro now
  rw [parse, parse, tokenized, rebuilt]
  exact sameReading_ofTokens same.symm _ _ now

/-- The tokens of `find [day]/**/since yesterday`. -/
def bracketedTokens : List Token :=
  [⟨.find, .command, "find", ⟨0, 4⟩⟩, ⟨.literal, .ident, "day", ⟨5, 10⟩⟩,
    ⟨.since, .temporal, "since", ⟨14, 19⟩⟩, ⟨.yesterday, .relative, "yesterday", ⟨20, 29⟩⟩]

/-- A comment between tokens gives way to a space, and the name keeps its brackets. -/
theorem bracketedTokens_sameReading :
    ∃ copies,
      tokenize "find [day] since yesterday" = .ok copies ∧
        copies.map Token.contents = bracketedTokens.map Token.contents ∧
          ∀ now,
            SameReading (parse "find [day]/**/since yesterday" now)
              (parse "find [day] since yesterday" now) := by
  have tokenized : tokenize "find [day]/**/since yesterday" = .ok bracketedTokens := by
    decide +kernel
  have joined : " ".intercalate (bracketedTokens.map Token.source) =
      "find [day] since yesterday" := by
    decide +kernel
  have again := sameReading_respelled tokenized
  rw [joined] at again
  exact again

end FindQuery.Query
