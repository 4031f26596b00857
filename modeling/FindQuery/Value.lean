import FindQuery.Condition
import FindQuery.Number.Binary64
import FindQuery.Number.IntLiteral

/-!
# Numbers out of values

A value keeps its text; its number is computed on demand.
-/

namespace FindQuery.Value

open FindQuery.Number

/-- The integer that an integer value denotes. -/
def toInt? (value : Value) : Option Int :=
  match value.kind with
  | .int => IntLiteral.value? value.raw.toList
  | _ => none

/-- The binary64 number nearest to a numeric value. -/
def toBinary64? (value : Value) : Option Binary64 :=
  match value.kind with
  | .int | .float => Binary64.ofText? value.raw.toList
  | _ => none

end FindQuery.Value
