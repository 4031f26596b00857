/-!
# Powers of two and of ten

Binary words are laid out by powers of two, and decimal numerals are scaled by
powers of ten.
-/

namespace FindQuery.Number

/-- Two to the power of an exponent. -/
def twoTo (exponent : Nat) : Nat :=
  Nat.pow 2 exponent

/-- Ten to the power of an exponent. -/
def tenTo (exponent : Nat) : Nat :=
  Nat.pow 10 exponent

end FindQuery.Number
