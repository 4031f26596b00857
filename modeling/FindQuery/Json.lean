import FindQuery.Number.Digits

/-!
# JSON values

Queries are written as JSON, and settings are read from it.  A number keeps its
text.  Objects keep their members in order, with repetitions.
-/

namespace FindQuery

/-- A JSON value. -/
inductive Json where
  | null
  | bool (value : Bool)
  | number (text : String)
  | string (text : String)
  | array (items : List Json)
  | object (members : List (String × Json))
  /--
  A string, or an object with a key, that is well formed but holds half of a
  surrogate pair and so denotes no text.
  -/
  | undecodable
  deriving Repr, Inhabited

/-- The number with the text of an integer. -/
def Json.ofInt (number : Int) : Json :=
  .number (String.ofList (FindQuery.Number.integerText number))

/-- The number with the text of a natural number. -/
def Json.ofNat (number : Nat) : Json :=
  .number (String.ofList (FindQuery.Number.naturalText number))

end FindQuery
