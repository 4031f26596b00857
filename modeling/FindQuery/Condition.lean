import FindQuery.Token

/-!
# Conditions

A condition is an alternative of groups, and a group is a conjunction of
comparisons.  Since `AND` binds tighter than `OR`, a condition is built from left
to right: `OR` opens a group and `AND` adds to the latest one.  The values of a
comparison keep the text that the user wrote.
-/

namespace FindQuery

/-- The class of a value. -/
inductive ValueKind where
  | int
  | float
  | string
  | ident
  deriving DecidableEq, Repr, Inhabited

/-- The name of a class of values. -/
def ValueKind.name : ValueKind → String
  | int => "int"
  | float => "float"
  | string => "string"
  | ident => "ident"

/-- One side of a comparison: its class and its text as written. -/
structure Value where
  kind : ValueKind
  raw : String
  deriving DecidableEq, Repr, Inhabited

/-- The class of the values that tokens of a tag stand for, `none` for words and signs. -/
def ValueKind.ofTag? : Tag → Option ValueKind
  | .int => some .int
  | .float => some .float
  | .string => some .string
  | .ident => some .ident
  | _ => none

/-- The value of a literal token, `none` for words and signs. -/
def Value.ofToken? (token : Token) : Option Value :=
  (ValueKind.ofTag? token.tag).map fun kind => ⟨kind, token.text⟩

/-- The ways to compare two values. -/
inductive Comparison where
  | equal
  | notEqual
  | less
  | greater
  | lessEqual
  | greaterEqual
  | like
  | inside
  | between
  deriving DecidableEq, Repr, Inhabited

namespace Comparison

/-- The name of a comparison. -/
def name : Comparison → String
  | equal => "eq"
  | notEqual => "not_eq"
  | less => "lt"
  | greater => "gt"
  | lessEqual => "lte"
  | greaterEqual => "gte"
  | like => "like"
  | inside => "in"
  | between => "between"

/-- The comparison that a kind of token stands for. -/
def ofKind? : Kind → Option Comparison
  | .equal => some equal
  | .notEqual => some notEqual
  | .less => some less
  | .greater => some greater
  | .lessEqual => some lessEqual
  | .greaterEqual => some greaterEqual
  | .like => some like
  | .inside => some inside
  | .between => some between
  | _ => none

/-- Statements may test for equality alone; the other comparisons are reserved. -/
def isResolved : Comparison → Bool
  | equal => true
  | _ => false

end Comparison

/-- Two values and how they compare. -/
structure Predicate where
  left : Value
  comparison : Comparison
  right : Value
  deriving DecidableEq, Repr, Inhabited

/-- What joins a predicate to those before it. -/
inductive Connective where
  | and
  | or
  deriving DecidableEq, Repr, Inhabited

/-- The connective that a kind of token stands for. -/
def Connective.ofKind? : Kind → Option Connective
  | .and => some .and
  | .or => some .or
  | _ => none

/-- Groups of predicates: all predicates of at least one group have to hold. -/
structure Condition where
  groups : List (List Predicate)
  deriving DecidableEq, Repr, Inhabited

namespace Condition

/-- The condition without groups. -/
def empty : Condition := ⟨[]⟩

/-- Whether there is no group. -/
def isEmpty (condition : Condition) : Bool :=
  condition.groups.isEmpty

/-- All predicates from left to right. -/
def predicates (condition : Condition) : List Predicate :=
  condition.groups.flatten

/-- Opens a group that holds one predicate. -/
def or (condition : Condition) (predicate : Predicate) : Condition :=
  ⟨condition.groups ++ [[predicate]]⟩

/-- Adds a predicate to the latest group, or opens the first group with it. -/
def and (condition : Condition) (predicate : Predicate) : Condition :=
  match condition.groups.getLast? with
  | none => condition.or predicate
  | some group => ⟨condition.groups.dropLast ++ [group ++ [predicate]]⟩

/-- Joins a predicate to a condition. -/
def extend (condition : Condition) : Connective → Predicate → Condition
  | .and, predicate => condition.and predicate
  | .or, predicate => condition.or predicate

@[simp]
theorem predicates_or (condition : Condition) (predicate : Predicate) :
    (condition.or predicate).predicates = condition.predicates ++ [predicate] := by
  simp [or, predicates]

@[simp]
theorem predicates_and (condition : Condition) (predicate : Predicate) :
    (condition.and predicate).predicates = condition.predicates ++ [predicate] := by
  obtain ⟨groups⟩ := condition
  rcases List.eq_nil_or_concat groups with rfl | ⟨earlier, group, rfl⟩
  · rfl
  · simp [and, predicates]

/-- A condition keeps its predicates in the order in which they are joined. -/
@[simp]
theorem predicates_extend
    (condition : Condition) (connective : Connective) (predicate : Predicate) :
    (condition.extend connective predicate).predicates =
      condition.predicates ++ [predicate] := by
  cases connective <;> simp [extend]

end Condition

end FindQuery
