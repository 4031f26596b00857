import FindQuery.Text.Bytes
import FindQuery.Token.Tag

/-!
# Errors in a query

An error is a cause at a location.  A location is a byte offset together with
the query from there on, so that a message can quote the place.  `render` shows
the message, the line of the query that holds the place, and a caret under it.
-/

namespace FindQuery

open FindQuery.Text

/-- A byte offset into a query and the query from there on. -/
structure Location where
  offset : Nat
  near : String
  deriving DecidableEq, Repr, Inhabited

/--
The location of a byte offset.  Nothing is near an offset past the end of the
query or inside one of its characters.
-/
def Location.ofOffset (query : String) (offset : Nat) : Location where
  offset := offset
  near :=
    match splitBytes? query.toList offset with
    | some (_, after) => String.ofList after
    | none => ""

/-- What can go wrong when a query is cut into tokens. -/
inductive LexicalCause where
  /-- No rule matches. -/
  | noMatch
  /-- A rule for words matches a lexeme that is no spelling of a reserved word. -/
  | unknownSymbol (tag : Tag) (lexeme : String)
  deriving DecidableEq, Repr, Inhabited

/-- What can be wrong with a query. -/
inductive Cause where
  | lexical (cause : LexicalCause)
  | expectedStatement
  | expectedField
  | matchingClauseTruncated
  | expectedComparisonOperator
  | missingAnd
  | invalidTemporalReference
  | statementTruncated
  | missingTemporalClause
  | notAnIntegerLiteral
  | beforeYesterdayMissing
  | unexpectedClause
  deriving DecidableEq, Repr, Inhabited

/-- What is wrong with a query, and where. -/
structure QueryError where
  cause : Cause
  location : Location
  deriving DecidableEq, Repr, Inhabited

/-- What a message says of a cause, before it quotes the place. -/
def Cause.phrase : Cause → String
  | .lexical .noMatch => "unknown token or unquoted string"
  | .lexical (.unknownSymbol tag lexeme) =>
      "lexer: " ++ tag.label ++ " token '" ++ lexeme ++ "' unknown in symbol table"
  | .expectedStatement => "expected statement"
  | .expectedField => "expected field"
  | .matchingClauseTruncated => "MATCHING clause cut short"
  | .expectedComparisonOperator => "expected comparison operator '='"
  | .missingAnd => "missing AND in BETWEEN clause"
  | .invalidTemporalReference => "invalid temporal reference"
  | .statementTruncated => "FIND statement cut short"
  | .missingTemporalClause => "expected temporal clause (SINCE or BETWEEN)"
  | .notAnIntegerLiteral => "not an integer literal"
  | .beforeYesterdayMissing => "BEFORE YESTERDAY missing"
  | .unexpectedClause => "unexpected clause"

/-- Whether the cause lies in the tables of the language and not in the query. -/
def Cause.isInternal : Cause → Bool
  | .lexical (.unknownSymbol _ _) => true
  | _ => false

/--
Where a caret stands in a text: the characters of the line before the caret and
those of the line from the caret on.
-/
structure CaretLine where
  before : List Char
  after : List Char
  deriving DecidableEq, Repr, Inhabited

namespace CaretLine

/--
The line around a byte offset.  An offset past the end or inside a character
stands for the end of the text.
-/
def ofOffset (text : List Char) (offset : Nat) : CaretLine :=
  let parts := (splitBytes? text offset).getD (text, [])
  { before := (parts.1.reverse.takeWhile (· != '\n')).reverse
    after := parts.2.takeWhile (· != '\n') }

/-- The line, a line break, and a caret below the first character after the place. -/
def render (line : CaretLine) : List Char :=
  line.before ++ line.after ++ '\n' :: List.replicate line.before.length ' ' ++ ['^']

end CaretLine

namespace QueryError

/-- The message of an error, which quotes the query from the place on. -/
def message (error : QueryError) : String :=
  if error.cause.isInternal then
    error.cause.phrase
  else
    error.cause.phrase ++ " at '" ++ error.location.near ++ "'"

/-- The message, the line of the query with the place, and a caret under the place. -/
def render (error : QueryError) (query : String) : String :=
  "syntax error: " ++ error.message ++ "\n" ++
    String.ofList (CaretLine.ofOffset query.toList error.location.offset).render

end QueryError

end FindQuery
