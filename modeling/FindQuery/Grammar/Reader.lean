import FindQuery.Error
import FindQuery.Token

/-!
# Reading a statement token by token

A reader takes tokens from the front of a list.  It either returns a value or
fails; in both cases it says which tokens are left.  A fault names its cause and
the tokens from the faulty one on, none of them when the statement ends too
early.  Where a fault lies in the query text follows from that list alone.
-/

namespace FindQuery.Grammar

/-- A cause and the tokens from the place of the fault to the end of the statement. -/
structure Fault where
  cause : Cause
  rest : List Token
  deriving DecidableEq, Repr, Inhabited

/-- A computation that takes tokens from the front of a statement. -/
abbrev TokenReader : Type → Type := EStateM Fault (List Token)

/-- The byte offset of the first of some tokens of a query, or the end of the query. -/
def offsetOf (query : String) : List Token → Nat
  | [] => query.utf8ByteSize
  | token :: _ => token.span.start

/-- The location of the first of some tokens of a query, or of the end of the query. -/
def locationOf (query : String) (tokens : List Token) : Location :=
  Location.ofOffset query (offsetOf query tokens)

/-- The error that a fault is in a given query. -/
def Fault.toError (query : String) (fault : Fault) : QueryError :=
  ⟨fault.cause, locationOf query fault.rest⟩

/-- Whether the first of some tokens has a given kind. -/
def startsWith (kind : Kind) : List Token → Bool
  | [] => false
  | token :: _ => token.kind == kind

/-- The kind of the token a number of places ahead. -/
def kindAt? (tokens : List Token) (ahead : Nat) : Option Kind :=
  tokens[ahead]?.map Token.kind

/-- Fails at the tokens that are left. -/
def failHere {Value : Type} (cause : Cause) : TokenReader Value :=
  fun tokens => .error ⟨cause, tokens⟩ tokens

/-- Takes the first token if it has a given kind, and says whether it has. -/
def eat (kind : Kind) : TokenReader Bool :=
  fun tokens =>
    if startsWith kind tokens then
      .ok true tokens.tail
    else
      .ok false tokens

end FindQuery.Grammar
