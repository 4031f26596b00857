import FindQuery.Grammar.Reader

/-!
# A cursor over the tokens of a query

A cursor pairs a query with the tokens that are still to come.  It looks ahead,
moves forward and tells where it stands in the text; nothing moves it back.
-/

namespace FindQuery

/-- A query and those of its tokens that are still to come. -/
structure Cursor where
  query : String
  rest : List Token
  deriving DecidableEq, Repr, Inhabited

namespace Cursor

/-- The token a number of places ahead. -/
def ahead (cursor : Cursor) (places : Nat) : Option Token :=
  cursor.rest[places]?

/-- The current token. -/
def current (cursor : Cursor) : Option Token :=
  cursor.ahead 0

/-- The kind of the token a number of places ahead. -/
def kindAhead (cursor : Cursor) (places : Nat) : Option Kind :=
  Grammar.kindAt? cursor.rest places

/-- Whether the current token has a given kind. -/
def isAt (cursor : Cursor) (kind : Kind) : Bool :=
  Grammar.startsWith kind cursor.rest

/-- The cursor a number of tokens later, at the end if there are fewer. -/
def drop (cursor : Cursor) (count : Nat) : Cursor :=
  { cursor with rest := cursor.rest.drop count }

/-- The current token and the cursor after it. -/
def next (cursor : Cursor) : Option Token × Cursor :=
  (cursor.current, cursor.drop 1)

/-- Whether the current token has a given kind, and the cursor after it if it has. -/
def eat (cursor : Cursor) (kind : Kind) : Bool × Cursor :=
  if cursor.isAt kind then
    (true, cursor.drop 1)
  else
    (false, cursor)

/-- Whether no token is left. -/
def atEnd (cursor : Cursor) : Bool :=
  cursor.rest.isEmpty

/-- The location of the token a number of places ahead, or of the end of the query. -/
def locationAhead (cursor : Cursor) (places : Nat) : Location :=
  Grammar.locationOf cursor.query (cursor.rest.drop places)

/-- The location of the current token, or of the end of the query. -/
def location (cursor : Cursor) : Location :=
  cursor.locationAhead 0

/-- What a reader makes of the tokens to come, and the cursor where it stops. -/
def run {Value : Type} (reader : Grammar.TokenReader Value) (cursor : Cursor) :
    Except QueryError Value × Cursor :=
  match reader cursor.rest with
  | .ok value rest => (.ok value, { cursor with rest := rest })
  | .error fault rest => (.error (fault.toError cursor.query), { cursor with rest := rest })

end Cursor

end FindQuery
