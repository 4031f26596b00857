import FindQuery.Condition
import FindQuery.Time.TimeRange
import FindQuery.Token

/-!
# Queries

A query is what a statement asks for: fields, or all of them, of the records that
meet a condition within a range of time.  Tokens after the first pipe belong to
later stages and are handed on as they are.
-/

namespace FindQuery

open FindQuery.Time

/-- A requested field and the name of its column in the result. -/
structure Field where
  name : String
  label : String
  deriving DecidableEq, Repr, Inhabited

/-- A field whose column has the name of the field. -/
def Field.plain (name : String) : Field :=
  ⟨name, name⟩

/-- What a statement asks for. -/
structure Query where
  /-- The requested fields in order, none of them when all are requested. -/
  fields : List Field
  all : Bool
  /-- The condition; without one every record will do. -/
  condition : Option Condition
  range : TimeRange
  /-- The tokens after the first pipe. -/
  remainder : List Token
  deriving DecidableEq, Repr, Inhabited

/-- Whether later stages follow. -/
def Query.hasSubcommands (query : Query) : Bool :=
  !query.remainder.isEmpty

end FindQuery
