import FindQuery.Proofs.Grammar.Fault
import FindQuery.Proofs.Lexis.Unspelled

/-!
# Internal errors

An error is internal when it lies in the tables of the language.  Readers of
statements never report one, and the scanner reports one exactly where it comes to a
reserved word that is written with a letter beyond ASCII.
-/

namespace FindQuery.Query

open FindQuery.Grammar
open FindQuery.Lexis
open FindQuery.Time

/-- Tokens that make up no query are refused for a reason of their own. -/
theorem isInternal_eq_false_of_ofTokens
    {source : String} {tokens : List Token} {now : Instant} {error : QueryError}
    (failed : ofTokens source tokens now = .error error) :
    error.cause.isInternal = false := by
  have orderly := orderly_readStatement now (remainderTokens tokens) (statementTokens tokens)
  rw [ofTokens] at failed
  split at failed
  · cases failed
  · rename_i fault rest read
    rw [read] at orderly
    cases failed
    exact Cause.isInternal_eq_false orderly.2

/--
Cutting a query into tokens, and reading it at any present, ends in an internal error
exactly when the scanner comes to a reserved word written with a letter beyond ASCII.
-/
theorem exists_internal_iff_meetsUnspelled (query : String) :
    ((∃ error, tokenize query = .error error ∧ error.cause.isInternal = true) ↔
        MeetsUnspelled query) ∧
      ∀ now,
        ((∃ error, parse query now = .error error ∧ error.cause.isInternal = true) ↔
          MeetsUnspelled query) := by
  constructor
  · exact exists_internal_tokenize_iff query
  · intro now
    rw [← exists_internal_tokenize_iff query, parse]
    cases tokenized : tokenize query with
    | error found => simp
    | ok tokens =>
        constructor
        · rintro ⟨error, failed, internal⟩
          rw [isInternal_eq_false_of_ofTokens failed] at internal
          cases internal
        · rintro ⟨error, failed, -⟩
          cases failed

/-- The word `since` with a long s is recognised and has no spelling. -/
theorem tokenize_since_with_longS :
    tokenize "ſince" =
        .error ⟨.lexical (.unknownSymbol .temporal "ſince"), ⟨0, "ſince"⟩⟩ ∧
      ¬ ∀ query error, tokenize query = .error error → error.cause.isInternal = false := by
  have found : tokenize "ſince" =
      .error ⟨.lexical (.unknownSymbol .temporal "ſince"), ⟨0, "ſince"⟩⟩ := by
    decide +kernel
  constructor
  · exact found
  · intro never
    have external := never _ _ found
    cases external

end FindQuery.Query
