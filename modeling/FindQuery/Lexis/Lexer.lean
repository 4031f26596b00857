import FindQuery.Lexis.Scanner

/-!
# Tokens on demand

A lexer hands out the tokens of a query one at a time.  After the first error it
has nothing more to give.
-/

namespace FindQuery.Lexis

/-- A query under way: the position reached, or `none` after an error. -/
structure Lexer where
  query : String
  position? : Option Position
  deriving DecidableEq, Repr, Inhabited

namespace Lexer

/-- A lexer at the start of a query. -/
def ofQuery (query : String) : Lexer :=
  ⟨query, some (startOf query)⟩

/-- The next token or error, `none` at the end of the query and after an error. -/
def next (lexer : Lexer) : Option (Except QueryError Token) × Lexer :=
  match lexer.position? with
  | none => (none, lexer)
  | some position =>
      match step position with
      | .finished => (none, lexer)
      | .token token after => (some (.ok token), { lexer with position? := some after })
      | .fault cause offset =>
          (some (.error (errorOf lexer.query cause offset)), { lexer with position? := none })

/-- The results of a number of calls. -/
def take (lexer : Lexer) : Nat → List (Option (Except QueryError Token))
  | 0 => []
  | count + 1 => lexer.next.1 :: lexer.next.2.take count

end Lexer

end FindQuery.Lexis
