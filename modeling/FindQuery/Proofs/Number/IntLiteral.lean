import FindQuery.Number.IntLiteral
import FindQuery.Proofs.Text.Run
import Mathlib.Data.List.Induction
import Mathlib.Data.Nat.Digits.Defs

/-!
# The integers that literals denote

A literal of the language is a sign or none, digits, and an exponent or none; it denotes an
integer.  Its value is that integer if it has 64 bits, with two exceptions, because every
step of the conversion has to stay within 64 bits.  The sign is applied last, so the least
integer is refused together with its opposite; and the power of ten stands by itself, so a
zero is refused if its exponent is above eighteen.
-/

namespace FindQuery.Number

open FindQuery.Text

/-! ## Digits -/

/-- The value of some digits is the number of which they are the digits in base ten. -/
theorem digitsValue_eq_ofDigits (digits : List Char) :
    digitsValue digits = Nat.ofDigits 10 (digits.reverse.map digitValue) := by
  induction digits using List.reverseRecOn with
  | nil => rfl
  | append_singleton digits last hypothesis =>
      rw [digitsValue, digitsValueFrom_append, digitsValueFrom_cons, digitsValueFrom_nil,
        ← digitsValue, hypothesis, List.reverse_append, List.reverse_singleton,
        List.singleton_append, List.map_cons, Nat.ofDigits_cons]
      omega

namespace IntLiteral

/-- The sign of a literal. -/
inductive Sign where
  | none
  | plus
  | minus
  deriving DecidableEq, Repr

/-- The text of a sign. -/
def Sign.text : Sign → List Char
  | none => []
  | plus => ['+']
  | minus => ['-']

/-- The factor that a sign stands for. -/
def Sign.factor : Sign → Int
  | minus => -1
  | _ => 1

/-- A literal of the language by its parts: the exponent comes with the mark before it. -/
structure Spelling where
  sign : Sign
  mantissa : List Char
  exponent : Option (Char × List Char)
  mantissa_isNumeral : isNumeral mantissa = true
  exponent_isNumeral :
    ∀ written ∈ exponent, isMark written.1 = true ∧ isNumeral written.2 = true

namespace Spelling

/-- The text of the exponent. -/
def tail (literal : Spelling) : List Char :=
  match literal.exponent with
  | none => []
  | some (mark, digits) => mark :: digits

/-- The text of a literal. -/
def text (literal : Spelling) : List Char :=
  literal.sign.text ++ (literal.mantissa ++ literal.tail)

/-- The power of ten by which a literal is scaled. -/
def power (literal : Spelling) : Nat :=
  match literal.exponent with
  | none => 0
  | some (_, digits) => Nat.ofDigits 10 (digits.reverse.map digitValue)

/-- The number that the digits before the exponent denote. -/
def coefficient (literal : Spelling) : Nat :=
  Nat.ofDigits 10 (literal.mantissa.reverse.map digitValue)

/-- The number that a literal denotes without its sign. -/
def magnitude (literal : Spelling) : Nat :=
  literal.coefficient * 10 ^ literal.power

/-- The integer that a literal denotes. -/
def number (literal : Spelling) : Int :=
  literal.sign.factor * literal.magnitude

end Spelling

/-! ## The parts of a text -/

theorem exists_digits_of_isNumeral
    {digits : List Char} (numeral : isNumeral digits = true) :
    (∃ first rest, digits = first :: rest) ∧ ∀ digit ∈ digits, digit.isDigit = true := by
  rw [isNumeral, Bool.and_eq_true, List.all_eq_true] at numeral
  rcases numeral with ⟨nonempty, inside⟩
  cases digits with
  | nil => cases nonempty
  | cons first rest => exact ⟨⟨first, rest, rfl⟩, inside⟩

theorem isMark_eq_false_of_isDigit
    {character : Char} (digit : character.isDigit = true) : isMark character = false := by
  rw [isMark, Bool.or_eq_false_iff, beq_eq_false_iff_ne, beq_eq_false_iff_ne]
  constructor
  · rintro rfl
    cases digit
  · rintro rfl
    cases digit

/-- A sign is taken from the digits after it. -/
theorem splitSign_append
    (sign : Sign) {digits : List Char} (numeral : isNumeral digits = true) (rest : List Char) :
    splitSign (sign.text ++ (digits ++ rest)) = (sign.factor, digits ++ rest) := by
  rcases exists_digits_of_isNumeral numeral with ⟨⟨first, others, rfl⟩, inside⟩
  have digit := inside first List.mem_cons_self
  cases sign with
  | none =>
      rw [splitSign.eq_def]
      split
      · rename_i same
        cases same
        cases digit
      · rename_i same
        cases same
        cases digit
      · rfl
  | plus => rfl
  | minus => rfl

theorem integer?_of_isNumeral
    {digits : List Char} (numeral : isNumeral digits = true) :
    integer? digits = some (digitsValue digits : Int) := by
  have natural : natural? digits = some (digitsValue digits) := if_pos numeral
  rcases exists_digits_of_isNumeral numeral with ⟨⟨first, others, rfl⟩, inside⟩
  have digit := inside first List.mem_cons_self
  rw [integer?.eq_def]
  split
  · rename_i same
    cases same
    cases digit
  · rename_i same
    cases same
    cases digit
  · rw [natural]
    rfl

/-- Digits without a sign are an exponent unless they have more than 32 bits. -/
theorem exponent?_of_isNumeral
    {digits : List Char} (numeral : isNumeral digits = true) :
    exponent? digits =
      if digitsValue digits ≤ exponentMax then some (digitsValue digits) else none := by
  have natural : natural? digits = some (digitsValue digits) := if_pos numeral
  rcases exists_digits_of_isNumeral numeral with ⟨⟨first, others, rfl⟩, inside⟩
  have digit := inside first List.mem_cons_self
  have unsigned : ∀ rest, first :: others ≠ '+' :: rest := by
    rintro rest same
    cases same
    cases digit
  rw [exponent?, natural, Option.filter_some]
  · simp only [decide_eq_true_eq]
  · exact unsigned

namespace Spelling

variable (literal : Spelling)

theorem head?_tail : ∀ next ∈ literal.tail.head?, isMark next = true := by
  rw [tail]
  cases written : literal.exponent with
  | none => simp
  | some parts =>
      have marked := (literal.exponent_isNumeral parts written).1
      simpa using marked

/-- The power of ten has 64 bits up to the eighteenth. -/
theorem scale?_tail :
    scale? literal.tail =
      if literal.power ≤ 18 then some (10 ^ literal.power : Int) else none := by
  rw [tail, power]
  cases written : literal.exponent with
  | none => rfl
  | some parts =>
      have numeral := (literal.exponent_isNumeral parts written).2
      simp only [scale?]
      rw [exponent?_of_isNumeral numeral, ← digitsValue_eq_ofDigits]
      by_cases small : digitsValue parts.2 ≤ 18
      · have fits : digitsValue parts.2 ≤ exponentMax := Nat.le_trans small (by decide)
        rw [if_pos fits, if_pos small, Option.bind_some, powerOfTen?, if_pos small, tenTo]
        rfl
      · rw [if_neg small]
        split
        · rw [Option.bind_some, powerOfTen?, if_neg small]
        · rfl

theorem fitsInt64_factor_mul
    (sign : Sign) {magnitude : Nat} (fits : (magnitude : Int) ≤ int64Max) :
    FitsInt64 (sign.factor * magnitude) := by
  cases sign <;> simp only [Sign.factor, FitsInt64, int64Min, int64Max] at * <;> omega

/--
A literal has a value if its power of ten has 64 bits and so has the number without its
sign.
-/
theorem value?_text :
    value? literal.text =
      if literal.power ≤ 18 ∧ (literal.magnitude : Int) ≤ int64Max then some literal.number
      else none := by
  have inside := (exists_digits_of_isNumeral literal.mantissa_isNumeral).2
  have unmarked : ∀ character ∈ literal.mantissa, (!isMark character) = true := by
    intro character member
    rw [isMark_eq_false_of_isDigit (inside character member), Bool.not_false]
  have ends : ∀ next ∈ literal.tail.head?, (!isMark next) = false := by
    intro next atHead
    rw [literal.head?_tail next atHead, Bool.not_true]
  have digits : digitsValue literal.mantissa = literal.coefficient := digitsValue_eq_ofDigits _
  have product : (literal.coefficient : Int) * 10 ^ literal.power = literal.magnitude := by
    rw [magnitude]
    push_cast
    rfl
  have small : literal.coefficient ≤ literal.magnitude :=
    Nat.le_mul_of_pos_right _ (Nat.pow_pos (by decide))
  rw [value?, text, splitSign_append literal.sign literal.mantissa_isNumeral]
  simp only [takeWhile_append_of_head? unmarked ends, dropWhile_append_of_head? unmarked ends,
    integer?_of_isNumeral literal.mantissa_isNumeral, scale?_tail, digits]
  by_cases scaled : literal.power ≤ 18
  · simp only [scaled, if_true, true_and, Option.bind_eq_bind, Option.bind_some]
    by_cases fits : (literal.magnitude : Int) ≤ int64Max
    · have fitsCoefficient : FitsInt64 literal.coefficient := by
        simp only [FitsInt64, int64Min, int64Max] at *
        omega
      have fitsMagnitude : FitsInt64 literal.magnitude := by
        simp only [FitsInt64, int64Min, int64Max] at *
        omega
      rw [if_pos fits, toInt64?_eq_some_iff.2 ⟨fitsCoefficient, rfl⟩, Option.bind_some, product,
        toInt64?_eq_some_iff.2 ⟨fitsMagnitude, rfl⟩, Option.bind_some, Int.mul_comm]
      exact toInt64?_eq_some_iff.2 ⟨fitsInt64_factor_mul _ fits, rfl⟩
    · have unfit : ¬ FitsInt64 literal.magnitude := fun both => fits both.2
      rw [if_neg fits]
      cases read : toInt64? literal.coefficient with
      | none => rfl
      | some coefficient =>
          rcases toInt64?_eq_some_iff.1 read with ⟨-, rfl⟩
          rw [Option.bind_some, product, toInt64?_eq_none_iff.2 unfit, Option.bind_none]
  · simp [scaled]

/-- The number without its sign has 64 bits unless it is the least integer that is denoted. -/
theorem magnitude_le_iff :
    (literal.magnitude : Int) ≤ int64Max ↔
      FitsInt64 literal.number ∧ literal.number ≠ int64Min := by
  rw [number]
  cases literal.sign <;> simp only [Sign.factor, FitsInt64, int64Min, int64Max] <;> omega

/-- The nineteenth power of ten has more than 64 bits, and so has every multiple but zero. -/
theorem number_eq_zero_of_le
    (fits : (literal.magnitude : Int) ≤ int64Max) (scaled : ¬ literal.power ≤ 18) :
    literal.number = 0 := by
  by_contra nonzero
  have positive : literal.magnitude ≠ 0 := by
    intro zero
    rw [number, zero] at nonzero
    simp at nonzero
  have coefficient : 1 ≤ literal.coefficient := by
    rw [magnitude] at positive
    exact Nat.pos_of_ne_zero (left_ne_zero_of_mul positive)
  have power : 10 ^ 19 ≤ 10 ^ literal.power := Nat.pow_le_pow_right (by decide) (by omega)
  have product : 1 * 10 ^ 19 ≤ literal.magnitude := Nat.mul_le_mul coefficient power
  simp only [int64Max] at fits
  omega

/--
A literal has a value if the integer that it denotes has 64 bits, and the value is that
integer, unless it is the least one or a zero with an exponent above eighteen.
-/
theorem value?_text_eq_some_iff (value : Int) :
    value? literal.text = some value ↔
      (FitsInt64 literal.number ∧ value = literal.number) ∧
        literal.number ≠ int64Min ∧ (literal.number = 0 → literal.power ≤ 18) := by
  have bounded := literal.magnitude_le_iff
  rw [value?_text]
  by_cases converts : literal.power ≤ 18 ∧ (literal.magnitude : Int) ≤ int64Max
  · rw [if_pos converts]
    rcases bounded.1 converts.2 with ⟨fits, notLeast⟩
    constructor
    · rintro same
      cases same
      exact ⟨⟨fits, rfl⟩, notLeast, fun _ => converts.1⟩
    · rintro ⟨⟨-, rfl⟩, -⟩
      rfl
  · rw [if_neg converts]
    constructor
    · rintro ⟨⟩
    · rintro ⟨⟨fits, rfl⟩, notLeast, scaled⟩
      have small := bounded.2 ⟨fits, notLeast⟩
      have large : ¬ literal.power ≤ 18 := fun power => converts ⟨power, small⟩
      exact absurd (scaled (literal.number_eq_zero_of_le small large)) large

end Spelling

/-! ## Literals without a sign -/

/-- A text that starts with no sign is split into a positive sign and itself. -/
theorem splitSign_of_unsigned
    {first : Char} (unsigned : first ≠ '-' ∧ first ≠ '+') (rest : List Char) :
    splitSign (first :: rest) = (1, first :: rest) := by
  rw [splitSign.eq_def]
  split
  · rename_i same
    cases same
    exact absurd rfl unsigned.1
  · rename_i same
    cases same
    exact absurd rfl unsigned.2
  · rfl

theorem nonneg_of_integer?
    {text : List Char} {number : Int} (unsigned : ∀ first ∈ text.head?, first ≠ '-')
    (read : integer? text = some number) :
    0 ≤ number := by
  have ofNatural {digits : List Char}
      (found : ((natural? digits).map fun value => (value : Int)) = some number) :
      0 ≤ number := by
    cases read : natural? digits with
    | none =>
        rw [read] at found
        cases found
    | some value =>
        rw [read] at found
        cases found
        exact Int.natCast_nonneg value
  rw [integer?.eq_def] at read
  split at read
  · exact absurd rfl (unsigned '-' rfl)
  · exact ofNatural read
  · exact ofNatural read

theorem nonneg_of_scale?
    {tail : List Char} {scale : Int} (scaled : scale? tail = some scale) : 0 ≤ scale := by
  cases tail with
  | nil =>
      cases scaled
      decide
  | cons mark text =>
      rcases Option.bind_eq_some_iff.1 scaled with ⟨power, -, powered⟩
      rw [powerOfTen?] at powered
      split at powered
      · cases powered
        exact Int.natCast_nonneg _
      · cases powered

/-- The value of a literal that starts with no sign is not negative. -/
theorem nonneg_of_value?
    {first : Char} {rest : List Char} {value : Int} (unsigned : first ≠ '-' ∧ first ≠ '+')
    (converted : value? (first :: rest) = some value) :
    0 ≤ value := by
  rw [value?, splitSign_of_unsigned unsigned] at converted
  rcases Option.bind_eq_some_iff.1 converted with ⟨scale, scaled, read⟩
  rcases Option.bind_eq_some_iff.1 read with ⟨mantissa, readMantissa, multiplied⟩
  rcases Option.bind_eq_some_iff.1 multiplied with ⟨product, fits, signed⟩
  rcases Option.bind_eq_some_iff.1 readMantissa with ⟨digits, readDigits, fitsDigits⟩
  have unsignedDigits : ∀ next ∈ ((first :: rest).takeWhile fun character =>
      !isMark character).head?, next ≠ '-' := by
    intro next atHead
    rw [List.head?_takeWhile, Option.mem_filter_iff] at atHead
    cases atHead.1
    exact unsigned.1
  have nonnegative := Int.mul_nonneg (nonneg_of_integer? unsignedDigits readDigits)
    (nonneg_of_scale? scaled)
  rcases toInt64?_eq_some_iff.1 fitsDigits with ⟨-, rfl⟩
  rcases toInt64?_eq_some_iff.1 fits with ⟨-, rfl⟩
  rcases toInt64?_eq_some_iff.1 signed with ⟨-, rfl⟩
  rwa [Int.mul_one]

/-- The least 64-bit integer as a literal. -/
def leastInteger : Spelling where
  sign := .minus
  mantissa := "9223372036854775808".toList
  exponent := none
  mantissa_isNumeral := by decide
  exponent_isNumeral := by simp

/-- Zero, scaled by the nineteenth power of ten. -/
def scaledZero : Spelling where
  sign := .none
  mantissa := ['0']
  exponent := some ('e', ['1', '9'])
  mantissa_isNumeral := by decide
  exponent_isNumeral := by simp; decide

/-- The least integer and a scaled zero have 64 bits, and neither literal has a value. -/
theorem value?_eq_none_of_fits :
    (leastInteger.text = "-9223372036854775808".toList ∧
        FitsInt64 leastInteger.number ∧ value? leastInteger.text = none) ∧
      (scaledZero.text = "0e19".toList ∧
        FitsInt64 scaledZero.number ∧ value? scaledZero.text = none) ∧
      ¬ ∀ (literal : Spelling) (value : Int),
          value? literal.text = some value ↔
            FitsInt64 literal.number ∧ value = literal.number := by
  have least : FitsInt64 leastInteger.number ∧ value? leastInteger.text = none := by
    decide +kernel
  have zero : FitsInt64 scaledZero.number ∧ value? scaledZero.text = none := by
    decide +kernel
  refine ⟨⟨by decide +kernel, least⟩, ⟨by decide +kernel, zero⟩, ?_⟩
  intro exact
  have converted := (exact leastInteger leastInteger.number).2 ⟨least.1, rfl⟩
  rw [least.2] at converted
  cases converted

end IntLiteral

end FindQuery.Number
