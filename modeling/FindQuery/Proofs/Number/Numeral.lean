import FindQuery.Number.Numeral
import FindQuery.Proofs.Lexis.Character
import FindQuery.Proofs.Lexis.Literal

/-!
# Numerals of the language as numbers

The numerals of the language may have the decimal digits of any script; the conversion to a
number knows the ten ASCII digits alone.  Apart from that every numeral of the language is
one that can be converted: it is, with or without a sign, exactly when its decimal digits are
ASCII digits.
-/

namespace FindQuery.Number

open FindQuery.Lexis
open FindQuery.Text

/-- The decimal digits of a text are ASCII digits, whatever its other characters are. -/
def HasAsciiDigits (text : List Char) : Prop :=
  ∀ character ∈ text, isDecimalDigit character = true → character.isDigit = true

instance (text : List Char) : Decidable (HasAsciiDigits text) :=
  decidable_of_iff (text.all fun character => !isDecimalDigit character || character.isDigit)
    (by simp [HasAsciiDigits, imp_iff_not_or])

theorem hasAsciiDigits_append (first second : List Char) :
    HasAsciiDigits (first ++ second) ↔ HasAsciiDigits first ∧ HasAsciiDigits second :=
  List.forall_mem_append

theorem hasAsciiDigits_of_isDigit
    {digits : List Char} (inside : ∀ digit ∈ digits, digit.isDigit = true) :
    HasAsciiDigits digits :=
  fun digit member _ => inside digit member

/-- A character that is no decimal digit does not matter. -/
theorem hasAsciiDigits_cons
    {first : Char} (noDigit : isDecimalDigit first = false) (rest : List Char) :
    HasAsciiDigits (first :: rest) ↔ HasAsciiDigits rest := by
  rw [HasAsciiDigits, List.forall_mem_cons, noDigit]
  simp [HasAsciiDigits]

theorem HasAsciiDigits.isDigit
    {digits : List Char} (ascii : HasAsciiDigits digits)
    (decimal : ∀ digit ∈ digits, isDecimalDigit digit = true) :
    ∀ digit ∈ digits, digit.isDigit = true :=
  fun digit member => ascii digit member (decimal digit member)

/-! ## Exponents -/

theorem natural?_isSome_iff (digits : List Char) :
    (natural? digits).isSome = true ↔
      digits ≠ [] ∧ ∀ digit ∈ digits, digit.isDigit = true := by
  rw [natural?, isNumeral]
  split <;> simp_all

/-- A sign makes a number of whatever is one. -/
theorem isSome_map_natural (value : Option Nat) (sign : Int → Int) :
    (Option.map sign (do return (← value))).isSome = value.isSome := by
  cases value <;> rfl

theorem hasAsciiDigits_of_integer?
    {text : List Char} (accepted : (integer? text).isSome = true) :
    HasAsciiDigits text := by
  have ofNatural {digits : List Char} (value : (natural? digits).isSome = true) :
      HasAsciiDigits digits :=
    hasAsciiDigits_of_isDigit ((natural?_isSome_iff digits).1 value).2
  rw [integer?.eq_def] at accepted
  split at accepted
  · rw [isSome_map_natural] at accepted
    exact (hasAsciiDigits_cons (by decide) _).2 (ofNatural accepted)
  · rw [isSome_map_natural] at accepted
    exact (hasAsciiDigits_cons (by decide) _).2 (ofNatural accepted)
  · rw [isSome_map_natural] at accepted
    exact ofNatural accepted

/-- Digits are a number with a sign before them and without. -/
theorem integer?_isSome_of_isDigits
    {digits : List Char} (isDigits : IsDigits digits) (ascii : HasAsciiDigits digits) :
    (integer? digits).isSome = true ∧
      ∀ sign, isExponentSign sign = true → (integer? (sign :: digits)).isSome = true := by
  have natural := (natural?_isSome_iff digits).2 ⟨isDigits.1, ascii.isDigit isDigits.2⟩
  constructor
  · rw [integer?.eq_def]
    split
    · cases isDigits.2 '-' List.mem_cons_self
    · cases isDigits.2 '+' List.mem_cons_self
    · rwa [isSome_map_natural]
  · intro sign isSign
    rw [isExponentSign, Bool.or_eq_true, beq_iff_eq, beq_iff_eq] at isSign
    rcases isSign with rfl | rfl
    · rwa [integer?, isSome_map_natural]
    · rwa [integer?, isSome_map_natural]

theorem hasAsciiDigits_of_exponent?
    {tail : List Char} (accepted : (Numeral.exponent? tail).isSome = true) :
    HasAsciiDigits tail := by
  cases tail with
  | nil => exact hasAsciiDigits_of_isDigit (by simp)
  | cons mark rest =>
      rw [Numeral.exponent?] at accepted
      split at accepted
      · rename_i isMark
        have marked : isExponentMark mark = true := by
          simpa [isExponentMark] using isMark
        have noDigit := isDecimalDigit_eq_false_of_isExponentMark marked
        exact (hasAsciiDigits_cons noDigit rest).2 (hasAsciiDigits_of_integer? accepted)
      · cases accepted

theorem exponent?_isSome_of_isExponent
    {exponent : List Char} (isExponent : IsExponent exponent) (ascii : HasAsciiDigits exponent) :
    (Numeral.exponent? exponent).isSome = true := by
  have onward {mark : Char} {rest : List Char} (marked : isExponentMark mark = true) :
      Numeral.exponent? (mark :: rest) = integer? rest := by
    rw [Numeral.exponent?, if_pos (by simpa [isExponentMark] using marked)]
  rcases isExponent with rfl | ⟨mark, digits, rfl, marked, isDigits⟩ |
    ⟨mark, sign, digits, rfl, marked, signed, isDigits⟩
  · rfl
  · have noDigit := isDecimalDigit_eq_false_of_isExponentMark marked
    rw [onward marked]
    exact (integer?_isSome_of_isDigits isDigits ((hasAsciiDigits_cons noDigit _).1 ascii)).1
  · rw [hasAsciiDigits_cons (isDecimalDigit_eq_false_of_isExponentMark marked),
      hasAsciiDigits_cons (isDecimalDigit_eq_false_of_isExponentSign signed)] at ascii
    rw [onward marked]
    exact (integer?_isSome_of_isDigits isDigits ascii).2 sign signed

/-! ## Decimal numerals -/

section

variable {whole : List Char}

/-- A point ends the digits before it, and digits may go on after it. -/
theorem decimal?_of_point
    (inside : ∀ digit ∈ whole, digit.isDigit = true) (rest : List Char) :
    Numeral.decimal? (whole ++ '.' :: rest) =
      if whole.isEmpty && (rest.takeWhile Char.isDigit).isEmpty then
        none
      else
        (Numeral.exponent? (rest.dropWhile Char.isDigit)).map fun exponent =>
          .decimal (digitsValue (whole ++ rest.takeWhile Char.isDigit))
            (exponent - (rest.takeWhile Char.isDigit).length) := by
  have stops : ∀ next ∈ ('.' :: rest).head?, next.isDigit = false := by simp
  rw [Numeral.decimal?, takeWhile_append_of_head? inside stops,
    dropWhile_append_of_head? inside stops]
  rfl

/-- Without a point the exponent follows the digits. -/
theorem decimal?_of_no_point
    (inside : ∀ digit ∈ whole, digit.isDigit = true) {tail : List Char}
    (ends : ∀ next ∈ tail.head?, next.isDigit = false) (noPoint : tail.head? ≠ some '.') :
    Numeral.decimal? (whole ++ tail) =
      if whole.isEmpty then
        none
      else
        (Numeral.exponent? tail).map fun exponent => .decimal (digitsValue whole) exponent := by
  rw [Numeral.decimal?, takeWhile_append_of_head? inside ends,
    dropWhile_append_of_head? inside ends]
  cases tail with
  | nil => simp
  | cons next later =>
      have other : next ≠ '.' := fun same => noPoint (congrArg some same)
      simp [other]

end

theorem hasAsciiDigits_of_decimal?
    {text : List Char} (accepted : (Numeral.decimal? text).isSome = true) :
    HasAsciiDigits text := by
  rcases exists_run Char.isDigit text with ⟨whole, tail, rfl, -, inside, ends⟩
  rw [hasAsciiDigits_append]
  refine ⟨hasAsciiDigits_of_isDigit inside, ?_⟩
  by_cases pointed : tail.head? = some '.'
  · rcases List.head?_eq_some_iff.1 pointed with ⟨rest, rfl⟩
    rw [decimal?_of_point inside] at accepted
    split at accepted
    · cases accepted
    · rw [Option.isSome_map] at accepted
      rw [hasAsciiDigits_cons (by decide),
        ← List.takeWhile_append_dropWhile (p := Char.isDigit) (l := rest), hasAsciiDigits_append]
      exact ⟨hasAsciiDigits_of_isDigit fun digit => List.mem_takeWhile_imp,
        hasAsciiDigits_of_exponent? accepted⟩
  · rw [decimal?_of_no_point inside ends pointed] at accepted
    split at accepted
    · cases accepted
    · rw [Option.isSome_map] at accepted
      exact hasAsciiDigits_of_exponent? accepted

/-! ## Numerals of the language -/

/-- An exponent goes on neither with digits nor with a point. -/
theorem head?_of_isExponent
    {exponent : List Char} (isExponent : IsExponent exponent) :
    (∀ next ∈ exponent.head?, next.isDigit = false) ∧ exponent.head? ≠ some '.' := by
  have ofMark {mark : Char} (marked : isExponentMark mark = true) (rest : List Char) :
      (∀ next ∈ (mark :: rest).head?, next.isDigit = false) ∧
        (mark :: rest).head? ≠ some '.' := by
    rw [isExponentMark, Bool.or_eq_true, beq_iff_eq, beq_iff_eq] at marked
    rcases marked with rfl | rfl
    · simp
    · simp
  rcases isExponent with rfl | ⟨mark, digits, rfl, marked, -⟩ | ⟨mark, sign, digits, rfl, marked, -⟩
  · simp
  · exact ofMark marked _
  · exact ofMark marked _

theorem decimal?_isSome_of_isNumeral
    {lexeme : List Char} (numeral : IsNumeral lexeme) (ascii : HasAsciiDigits lexeme) :
    (Numeral.decimal? lexeme).isSome = true := by
  have scaled {whole exponent : List Char} (isDigits : IsDigits whole)
      (isExponent : IsExponent exponent) (ascii : HasAsciiDigits (whole ++ exponent)) :
      (Numeral.decimal? (whole ++ exponent)).isSome = true := by
    rcases (hasAsciiDigits_append _ _).1 ascii with ⟨asciiWhole, asciiExponent⟩
    rcases head?_of_isExponent isExponent with ⟨ends, noPoint⟩
    rw [decimal?_of_no_point (asciiWhole.isDigit isDigits.2) ends noPoint,
      if_neg (by simpa using isDigits.1), Option.isSome_map]
    exact exponent?_isSome_of_isExponent isExponent asciiExponent
  rcases numeral with ⟨whole, fraction, exponent, rfl, inside, isDigits, isExponent⟩ |
    ⟨whole, exponent, rfl, isDigits, signed⟩ | ⟨whole, exponent, rfl, isDigits, form⟩
  · rw [hasAsciiDigits_append, hasAsciiDigits_cons (by decide), hasAsciiDigits_append] at ascii
    rcases ascii with ⟨asciiWhole, asciiFraction, asciiExponent⟩
    have fractionInside := asciiFraction.isDigit isDigits.2
    have ends := (head?_of_isExponent isExponent).1
    rw [decimal?_of_point (asciiWhole.isDigit inside),
      takeWhile_append_of_head? fractionInside ends,
      dropWhile_append_of_head? fractionInside ends, if_neg (by simp [isDigits.1]),
      Option.isSome_map]
    exact exponent?_isSome_of_isExponent isExponent asciiExponent
  · exact scaled isDigits (.inr (.inr signed)) ascii
  · rcases form with none | unsigned
    · exact scaled isDigits (.inl none) ascii
    · exact scaled isDigits (.inr (.inl unsigned)) ascii

theorem exists_decimal_of_decimal?
    {text : List Char} {magnitude : Magnitude}
    (found : Numeral.decimal? text = some magnitude) :
    ∃ coefficient exponent, magnitude = .decimal coefficient exponent := by
  rw [Numeral.decimal?] at found
  split at found
  split at found
  · cases found
  · rcases Option.map_eq_some_iff.1 found with ⟨exponent, -, rfl⟩
    exact ⟨_, _, rfl⟩

/-- No digit and no point is a letter, in either case. -/
theorem isUpper_toUpper_eq_false
    {first : Char} (starts : isDecimalDigit first = true ∨ first = '.') :
    first.toUpper.isUpper = false := by
  rcases starts with digit | rfl
  · rw [← Bool.not_eq_true, isUpper_iff, toNat_toUpper]
    intro upper
    have letter : (65 ≤ first.toNat ∧ first.toNat ≤ 90) ∨
        (97 ≤ first.toNat ∧ first.toNat ≤ 122) := by
      split at upper <;> omega
    have none := isDecimalPoint_eq_false_of_letter first.toNat (by omega) letter
    exact absurd digit (ne_true_of_eq_false none)
  · decide

/-- What starts with a digit or a point is not one of the words for numbers. -/
theorem magnitude?_eq_decimal?
    {first : Char} (starts : isDecimalDigit first = true ∨ first = '.') (rest : List Char) :
    Numeral.magnitude? (first :: rest) = Numeral.decimal? (first :: rest) := by
  have other {letter : Char} (upper : letter.isUpper = true) (later : List Char) :
      asciiUpper (first :: rest) ≠ letter :: later := by
    intro same
    rw [asciiUpper, List.map_cons, List.cons.injEq] at same
    rw [← same.1, isUpper_toUpper_eq_false starts] at upper
    cases upper
  rw [Numeral.magnitude?, if_neg, if_neg]
  · exact other (by decide) ['A', 'N']
  · rintro (same | same)
    · exact other (by decide) ['N', 'F'] same
    · exact other (by decide) ['N', 'F', 'I', 'N', 'I', 'T', 'Y'] same

/-- The signs that a number may have, none among them. -/
def IsSign (sign : List Char) : Prop :=
  sign = [] ∨ sign = ['-'] ∨ sign = ['+']

theorem hasAsciiDigits_signed
    {sign : List Char} (isSign : IsSign sign) (lexeme : List Char) :
    HasAsciiDigits (sign ++ lexeme) ↔ HasAsciiDigits lexeme := by
  rcases isSign with rfl | rfl | rfl
  · rfl
  · exact hasAsciiDigits_cons (by decide) lexeme
  · exact hasAsciiDigits_cons (by decide) lexeme

/-- A sign is taken from a number, and the rest of it is a decimal numeral. -/
theorem exists_ofText?_eq
    {sign lexeme : List Char} (isSign : IsSign sign) (numeral : IsNumeral lexeme) :
    ∃ negative, Numeral.ofText? (sign ++ lexeme) =
      (Numeral.decimal? lexeme).map fun magnitude => ⟨negative, magnitude⟩ := by
  rcases numeral.exists_head with ⟨first, rest, rfl, starts⟩
  have magnitude := magnitude?_eq_decimal? starts rest
  rcases isSign with rfl | rfl | rfl
  · refine ⟨false, ?_⟩
    rw [← magnitude, List.nil_append, Numeral.ofText?.eq_def]
    split
    · rename_i same
      cases same
      rcases starts with digit | point
      · cases digit
      · cases point
    · rename_i same
      cases same
      rcases starts with digit | point
      · cases digit
      · cases point
    · rfl
  · exact ⟨true, by rw [← magnitude]; rfl⟩
  · exact ⟨false, by rw [← magnitude]; rfl⟩

/--
A number of the language, with or without a sign, can be converted exactly when its decimal
digits are ASCII digits, and then it is a decimal numeral.
-/
theorem ofText?_isSome_iff_hasAsciiDigits
    {sign lexeme : List Char} (isSign : IsSign sign) (numeral : IsNumeral lexeme) :
    ((Numeral.ofText? (sign ++ lexeme)).isSome = true ↔ HasAsciiDigits (sign ++ lexeme)) ∧
      ∀ found, Numeral.ofText? (sign ++ lexeme) = some found →
        ∃ coefficient exponent, found.magnitude = .decimal coefficient exponent := by
  rcases exists_ofText?_eq isSign numeral with ⟨negative, same⟩
  rw [same, Option.isSome_map, hasAsciiDigits_signed isSign]
  refine ⟨⟨hasAsciiDigits_of_decimal?, decimal?_isSome_of_isNumeral numeral⟩, ?_⟩
  intro found converted
  rcases Option.map_eq_some_iff.1 converted with ⟨magnitude, decimal, rfl⟩
  exact exists_decimal_of_decimal? decimal

end FindQuery.Number
