import FindQuery.Keyword
import FindQuery.Token.Kind
import FindQuery.Token.Tag

/-!
# Tokens

A token is a unit of a statement together with the bytes of the query that it
came from.  Its text is what the user wrote, without the quotes of a string and
the brackets of an identifier.  `Token.source` spells a token so that reading
the spelling gives the token back.
-/

namespace FindQuery

open FindQuery.Text

/-- The bytes of a query from `start` on and before `stop`. -/
structure Span where
  start : Nat
  stop : Nat
  deriving DecidableEq, Repr, Inhabited

/-- A unit of a statement and where it stands in the query. -/
structure Token where
  kind : Kind
  tag : Tag
  text : String
  span : Span
  deriving DecidableEq, Repr, Inhabited

/-- Whether a character continues the leading word of an identifier. -/
def isPlainWordCharacter (character : Char) : Bool :=
  character.isAlphanum || character == '_'

/--
Whether the leading word of a name is reserved, so that the bare name would not
be read as one.
-/
def isShadowed (characters : List Char) : Bool :=
  (Keyword.kindOf? (characters.takeWhile isPlainWordCharacter)).isSome

namespace Token

/--
A spelling of the token: a string in the quotes that its text leaves free, an
identifier in brackets where its leading word is reserved, and any other token
as it was written.
-/
def source (token : Token) : String :=
  match token.tag with
  | .string =>
      if token.text.toList.contains '\'' then
        "\"" ++ token.text ++ "\""
      else
        "'" ++ token.text ++ "'"
  | .ident =>
      if isShadowed token.text.toList then
        "[" ++ token.text ++ "]"
      else
        token.text
  | _ => token.text

end Token

end FindQuery
