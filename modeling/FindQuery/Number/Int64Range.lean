/-!
# The range of 64-bit integers

Counts, bounds of time ranges and the products formed on the way to them have to
be 64-bit integers in two's complement.  Arithmetic in this library is exact;
`toInt64?` marks the places where a result outside the range is refused.
-/

namespace FindQuery.Number

/-- The least 64-bit integer. -/
def int64Min : Int := -9223372036854775808

/-- The greatest 64-bit integer. -/
def int64Max : Int := 9223372036854775807

/-- Whether an integer has 64 bits. -/
def FitsInt64 (number : Int) : Prop :=
  int64Min ≤ number ∧ number ≤ int64Max

instance (number : Int) : Decidable (FitsInt64 number) :=
  inferInstanceAs (Decidable (_ ∧ _))

/-- An integer if it has 64 bits. -/
def toInt64? (number : Int) : Option Int :=
  if FitsInt64 number then some number else none

@[simp]
theorem toInt64?_eq_some_iff {number result : Int} :
    toInt64? number = some result ↔ FitsInt64 number ∧ number = result := by
  simp [toInt64?]

@[simp]
theorem toInt64?_eq_none_iff {number : Int} :
    toInt64? number = none ↔ ¬ FitsInt64 number := by
  simp [toInt64?]

end FindQuery.Number
