import FindQuery.Proofs.Lexis.Rule

/-!
# Lexemes of literals

Each measuring function of a literal finds exactly the lexemes of one shape: what
it measures has the shape, and a lexeme of the shape is measured in full when it
ends where the text ends or at a space.
-/

namespace FindQuery.Lexis

open FindQuery.Text

/-- Whether a text ends a lexeme: it is empty or starts with a space. -/
def IsGap (text : List Char) : Prop :=
  ∀ next ∈ text.head?, next = ' '

theorem isGap_nil : IsGap [] := by
  simp [IsGap]

theorem isGap_cons (rest : List Char) : IsGap (' ' :: rest) := by
  simp [IsGap]

theorem IsGap.eq_nil_or_cons {gap : List Char} (blank : IsGap gap) :
    gap = [] ∨ ∃ later, gap = ' ' :: later := by
  cases gap with
  | nil => exact .inl rfl
  | cons next later =>
      rw [blank next rfl]
      exact .inr ⟨later, rfl⟩

theorem IsGap.endsWord {gap : List Char} (blank : IsGap gap) :
    endsWord gap = true := by
  rcases blank.eq_nil_or_cons with rfl | ⟨later, rfl⟩
  · rfl
  · rfl

/-- A character of a class that leaves out the space does not follow a run at a gap. -/
theorem IsGap.head?_eq_false
    {p : Char → Bool} {gap : List Char} (blank : IsGap gap) (outside : p ' ' = false) :
    ∀ next ∈ gap.head?, p next = false := by
  intro next atHead
  rw [blank next atHead]
  exact outside

/-! ## Quoted texts -/

theorem takeWhile_ne_quote
    {quote : Char} {body : List Char} (fresh : quote ∉ body) (rest : List Char) :
    (body ++ quote :: rest).takeWhile (· != quote) = body := by
  apply takeWhile_append_of_head?
  · intro character member
    exact bne_iff_ne.2 fun same => fresh (same ▸ member)
  · simp

/-- A quoted text is a quote, characters other than the quote, and the quote again. -/
theorem quotedLength?_eq_some_iff (text : List Char) (length : Nat) :
    quotedLength? text = some length ↔
      ∃ quote body rest,
        isQuote quote = true ∧ quote ∉ body ∧
          text = quote :: (body ++ quote :: rest) ∧ length = body.length + 2 := by
  constructor
  · intro measured
    cases text with
    | nil => cases measured
    | cons quote later =>
        rw [quotedLength?] at measured
        split at measured
        · rename_i quoted
          cases measured
          rcases List.eq_append_cons_of_mem quoted.2 with ⟨body, rest, rfl, fresh⟩
          refine ⟨quote, body, rest, quoted.1, fresh, rfl, ?_⟩
          rw [takeWhile_ne_quote fresh]
        · cases measured
  · rintro ⟨quote, body, rest, isOne, fresh, rfl, rfl⟩
    rw [quotedLength?, if_pos ⟨isOne, by simp⟩, takeWhile_ne_quote fresh]

/-- A quoted text is measured up to its closing quote. -/
theorem quotedLength?_of_fresh
    {quote : Char} {body : List Char} (isOne : isQuote quote = true) (fresh : quote ∉ body)
    (rest : List Char) :
    quotedLength? (quote :: (body ++ quote :: rest)) = some (body.length + 2) :=
  (quotedLength?_eq_some_iff _ _).2 ⟨quote, body, rest, isOne, fresh, rfl, rfl⟩

theorem quotedLength?_eq_none_of_head
    {first : Char} (noQuote : isQuote first = false) (rest : List Char) :
    quotedLength? (first :: rest) = none := by
  simp [quotedLength?, noQuote]

/-! ## Names -/

/-- A letter or an underscore, then letters, digits and the signs that names allow. -/
def IsName (name : List Char) : Prop :=
  ∃ first parts,
    name = first :: parts ∧ isNameStart first = true ∧
      ∀ part ∈ parts, isNamePart part = true

/-- A bare name is as long as its characters are those of a name. -/
theorem bareNameLength?_eq_some_iff (text : List Char) (length : Nat) :
    bareNameLength? text = some length ↔
      ∃ name rest,
        IsName name ∧ (∀ next ∈ rest.head?, isNamePart next = false) ∧
          text = name ++ rest ∧ length = name.length := by
  constructor
  · intro measured
    cases text with
    | nil => cases measured
    | cons first later =>
        rw [bareNameLength?] at measured
        split at measured
        · rename_i starts
          cases measured
          rcases exists_run isNamePart later with ⟨parts, rest, rfl, run, inside, ends⟩
          refine ⟨first :: parts, rest, ⟨first, parts, rfl, starts, inside⟩, ends, rfl, ?_⟩
          rw [run, List.length_cons]
        · cases measured
  · rintro ⟨name, rest, ⟨first, parts, rfl, starts, inside⟩, ends, rfl, rfl⟩
    rw [List.cons_append, bareNameLength?, if_pos starts,
      takeWhile_append_of_head? inside ends, List.length_cons]

/-- Without a bracket a name is bare. -/
theorem nameLength?_of_head? {text : List Char} (noBracket : text.head? ≠ some '[') :
    nameLength? text = bareNameLength? text := by
  rw [nameLength?]
  rintro rest rfl
  exact noBracket rfl

/-- A name is bare, or a bare name between brackets. -/
theorem nameLength?_eq_some_iff (text : List Char) (length : Nat) :
    nameLength? text = some length ↔
      (∃ name rest,
        IsName name ∧ text = '[' :: (name ++ ']' :: rest) ∧ length = name.length + 2) ∨
      (∃ name rest,
        IsName name ∧ (∀ next ∈ rest.head?, isNamePart next = false) ∧
          text = name ++ rest ∧ length = name.length) := by
  by_cases bracket : text.head? = some '['
  · rcases List.head?_eq_some_iff.1 bracket with ⟨inner, rfl⟩
    rw [nameLength?]
    constructor
    · intro measured
      left
      split at measured
      · cases measured
      · rename_i size bare
        rcases (bareNameLength?_eq_some_iff inner size).1 bare with
          ⟨name, rest, isName, -, rfl, rfl⟩
        rw [List.drop_left] at measured
        split at measured
        · rename_i closes
          cases measured
          rcases List.head?_eq_some_iff.1 closes with ⟨later, rfl⟩
          exact ⟨name, later, isName, rfl, rfl⟩
        · cases measured
    · rintro (⟨name, rest, isName, same, rfl⟩ |
        ⟨name, rest, ⟨first, parts, rfl, starts, -⟩, -, same, -⟩)
      · cases same
        -- The closing bracket is no part of a name and ends the bare name.
        have bare : bareNameLength? (name ++ ']' :: rest) = some name.length := by
          apply (bareNameLength?_eq_some_iff _ _).2
          exact ⟨name, ']' :: rest, isName, by simp [isNamePart], rfl, rfl⟩
        simp [bare]
      · cases same
        cases starts
  · rw [nameLength?_of_head? bracket, bareNameLength?_eq_some_iff]
    constructor
    · intro plain
      exact .inr plain
    · rintro (⟨name, rest, -, rfl, -⟩ | plain)
      · exact absurd rfl bracket
      · exact plain

/-! ## Digits and exponents -/

/-- Decimal digits, at least one. -/
def IsDigits (digits : List Char) : Prop :=
  digits ≠ [] ∧ ∀ digit ∈ digits, isDecimalDigit digit = true

/-- An exponent mark and digits. -/
def IsUnsignedExponent (exponent : List Char) : Prop :=
  ∃ mark digits, exponent = mark :: digits ∧ isExponentMark mark = true ∧ IsDigits digits

/-- An exponent mark, a sign and digits. -/
def IsSignedExponent (exponent : List Char) : Prop :=
  ∃ mark sign digits,
    exponent = mark :: sign :: digits ∧
      isExponentMark mark = true ∧ isExponentSign sign = true ∧ IsDigits digits

theorem digitCount_append
    {digits rest : List Char}
    (inside : ∀ digit ∈ digits, isDecimalDigit digit = true)
    (ends : ∀ next ∈ rest.head?, isDecimalDigit next = false) :
    digitCount (digits ++ rest) = digits.length := by
  rw [digitCount, takeWhile_append_of_head? inside ends]

theorem exists_digits (text : List Char) :
    ∃ digits rest,
      text = digits ++ rest ∧ digitCount text = digits.length ∧
        (∀ digit ∈ digits, isDecimalDigit digit = true) ∧
          ∀ next ∈ rest.head?, isDecimalDigit next = false := by
  rcases exists_run isDecimalDigit text with ⟨digits, rest, whole, run, inside, ends⟩
  exact ⟨digits, rest, whole, congrArg List.length run, inside, ends⟩

theorem digitCount_eq_zero
    {text : List Char} (ends : ∀ next ∈ text.head?, isDecimalDigit next = false) :
    digitCount text = 0 := by
  have inside : ∀ digit ∈ ([] : List Char), isDecimalDigit digit = true := by simp
  exact digitCount_append inside ends

theorem isDecimalDigit_eq_false_of_isExponentMark
    {mark : Char} (isMark : isExponentMark mark = true) :
    isDecimalDigit mark = false := by
  rw [isExponentMark, Bool.or_eq_true, beq_iff_eq, beq_iff_eq] at isMark
  rcases isMark with rfl | rfl
  · decide
  · decide

theorem isDecimalDigit_eq_false_of_isExponentSign
    {sign : Char} (isSign : isExponentSign sign = true) :
    isDecimalDigit sign = false := by
  rw [isExponentSign, Bool.or_eq_true, beq_iff_eq, beq_iff_eq] at isSign
  rcases isSign with rfl | rfl
  · decide
  · decide

theorem isExponentSign_eq_false_of_isDecimalDigit
    {digit : Char} (isDigit : isDecimalDigit digit = true) :
    isExponentSign digit = false := by
  cases isSign : isExponentSign digit with
  | false => rfl
  | true =>
      have noDigit := isDecimalDigit_eq_false_of_isExponentSign isSign
      exact absurd isDigit (ne_true_of_eq_false noDigit)

theorem exists_unsignedExponent (text : List Char) :
    ∃ exponent rest,
      text = exponent ++ rest ∧ unsignedExponentLength text = exponent.length ∧
        (exponent = [] ∨ IsUnsignedExponent exponent) := by
  cases text with
  | nil => exact ⟨[], [], rfl, rfl, .inl rfl⟩
  | cons mark later =>
      rcases exists_digits later with ⟨digits, rest, rfl, counted, inside, -⟩
      rw [unsignedExponentLength, counted]
      split
      · rename_i marked
        rw [Bool.and_eq_true, decide_eq_true_eq] at marked
        have isDigits : IsDigits digits := ⟨List.length_pos_iff.1 marked.2, inside⟩
        exact ⟨mark :: digits, rest, rfl, rfl, .inr ⟨mark, digits, rfl, marked.1, isDigits⟩⟩
      · exact ⟨[], mark :: (digits ++ rest), rfl, rfl, .inl rfl⟩

theorem exists_signedExponent (text : List Char) :
    ∃ exponent rest,
      text = exponent ++ rest ∧ signedExponentLength text = exponent.length ∧
        (exponent = [] ∨ IsSignedExponent exponent) := by
  cases text with
  | nil => exact ⟨[], [], rfl, rfl, .inl rfl⟩
  | cons mark others =>
      cases others with
      | nil => exact ⟨[], [mark], rfl, rfl, .inl rfl⟩
      | cons sign later =>
          rcases exists_digits later with ⟨digits, rest, rfl, counted, inside, -⟩
          rw [signedExponentLength, counted]
          split
          · rename_i marked
            rw [Bool.and_eq_true, Bool.and_eq_true, decide_eq_true_eq] at marked
            have isDigits : IsDigits digits := ⟨List.length_pos_iff.1 marked.2, inside⟩
            exact ⟨mark :: sign :: digits, rest, rfl, rfl,
              .inr ⟨mark, sign, digits, rfl, marked.1.1, marked.1.2, isDigits⟩⟩
          · exact ⟨[], mark :: sign :: (digits ++ rest), rfl, rfl, .inl rfl⟩

/-- An exponent without sign is measured in full, and not as one with a sign. -/
theorem IsUnsignedExponent.lengths
    {exponent rest : List Char} (isExponent : IsUnsignedExponent exponent)
    (ends : ∀ next ∈ rest.head?, isDecimalDigit next = false) :
    unsignedExponentLength (exponent ++ rest) = exponent.length ∧
      signedExponentLength (exponent ++ rest) = 0 := by
  rcases isExponent with ⟨mark, digits, rfl, marked, nonempty, inside⟩
  have counted := digitCount_append inside ends
  have positive := List.length_pos_iff.2 nonempty
  constructor
  · rw [List.cons_append, unsignedExponentLength, counted, marked, decide_eq_true positive]
    rfl
  · rcases List.exists_cons_of_ne_nil nonempty with ⟨first, later, rfl⟩
    have noSign := isExponentSign_eq_false_of_isDecimalDigit (inside first List.mem_cons_self)
    simp [signedExponentLength, noSign]

/-- An exponent with a sign is measured in full, and not as one without. -/
theorem IsSignedExponent.lengths
    {exponent rest : List Char} (isExponent : IsSignedExponent exponent)
    (ends : ∀ next ∈ rest.head?, isDecimalDigit next = false) :
    signedExponentLength (exponent ++ rest) = exponent.length ∧
      unsignedExponentLength (exponent ++ rest) = 0 := by
  rcases isExponent with ⟨mark, sign, digits, rfl, marked, signed, nonempty, inside⟩
  have counted := digitCount_append inside ends
  have positive := List.length_pos_iff.2 nonempty
  constructor
  · rw [List.cons_append, List.cons_append, signedExponentLength, counted, marked, signed,
      decide_eq_true positive]
    rfl
  · have noDigits : digitCount (sign :: (digits ++ rest)) = 0 := by
      apply digitCount_eq_zero
      simp [isDecimalDigit_eq_false_of_isExponentSign signed]
    simp [unsignedExponentLength, noDigits]

theorem IsGap.exponentLengths {gap : List Char} (blank : IsGap gap) :
    unsignedExponentLength gap = 0 ∧ signedExponentLength gap = 0 := by
  rcases blank.eq_nil_or_cons with rfl | ⟨later, rfl⟩
  · exact ⟨rfl, rfl⟩
  · constructor
    · rfl
    · cases later <;> rfl

/-! ## Numerals -/

/-- No exponent, or one of either form. -/
def IsExponent (exponent : List Char) : Prop :=
  exponent = [] ∨ IsUnsignedExponent exponent ∨ IsSignedExponent exponent

/-- A point with digits after it, perhaps digits before it, and perhaps an exponent. -/
def IsPointed (lexeme : List Char) : Prop :=
  ∃ whole fraction exponent,
    lexeme = whole ++ '.' :: (fraction ++ exponent) ∧
      (∀ digit ∈ whole, isDecimalDigit digit = true) ∧
        IsDigits fraction ∧ IsExponent exponent

/-- Digits and an exponent with a sign. -/
def IsScaled (lexeme : List Char) : Prop :=
  ∃ whole exponent, lexeme = whole ++ exponent ∧ IsDigits whole ∧ IsSignedExponent exponent

/-- Digits, and perhaps an exponent without sign. -/
def IsInteger (lexeme : List Char) : Prop :=
  ∃ whole exponent,
    lexeme = whole ++ exponent ∧ IsDigits whole ∧
      (exponent = [] ∨ IsUnsignedExponent exponent)

/-- The characters that numerals are made of. -/
def isNumeralPart (character : Char) : Bool :=
  isDecimalDigit character || character == '.' || isExponentMark character ||
    isExponentSign character

theorem isNumeralPart_of_isDecimalDigit
    {character : Char} (digit : isDecimalDigit character = true) :
    isNumeralPart character = true := by
  simp [isNumeralPart, digit]

theorem IsExponent.isNumeralPart
    {exponent : List Char} (isExponent : IsExponent exponent) :
    ∀ part ∈ exponent, isNumeralPart part = true := by
  rcases isExponent with rfl | ⟨mark, digits, rfl, marked, -, inside⟩ |
    ⟨mark, sign, digits, rfl, marked, signed, -, inside⟩
  · simp
  · intro part member
    rcases List.mem_cons.1 member with rfl | inDigits
    · simp [Lexis.isNumeralPart, marked]
    · exact isNumeralPart_of_isDecimalDigit (inside part inDigits)
  · intro part member
    simp only [List.mem_cons] at member
    rcases member with rfl | rfl | inDigits
    · simp [Lexis.isNumeralPart, marked]
    · simp [Lexis.isNumeralPart, signed]
    · exact isNumeralPart_of_isDecimalDigit (inside part inDigits)

/-- The longer of the two exponents at the start of a text is an exponent. -/
theorem exists_exponent (text : List Char) :
    ∃ exponent rest,
      text = exponent ++ rest ∧ IsExponent exponent ∧
        max (signedExponentLength text) (unsignedExponentLength text) = exponent.length := by
  rcases exists_signedExponent text with ⟨signed, afterSigned, signedWhole, signedSize, signedForm⟩
  rcases exists_unsignedExponent text with ⟨plain, afterPlain, plainWhole, plainSize, plainForm⟩
  by_cases longer : unsignedExponentLength text ≤ signedExponentLength text
  · refine ⟨signed, afterSigned, signedWhole, ?_, by omega⟩
    rcases signedForm with absent | present
    · exact .inl absent
    · exact .inr (.inr present)
  · refine ⟨plain, afterPlain, plainWhole, ?_, by omega⟩
    rcases plainForm with absent | present
    · exact .inl absent
    · exact .inr (.inl present)

/-- The exponent of a numeral at a gap is measured in full. -/
theorem IsExponent.max_lengths
    {exponent gap : List Char} (isExponent : IsExponent exponent) (blank : IsGap gap) :
    max (signedExponentLength (exponent ++ gap)) (unsignedExponentLength (exponent ++ gap)) =
      exponent.length := by
  have ends := blank.head?_eq_false (p := isDecimalDigit) (by decide)
  rcases isExponent with rfl | plain | signed
  · rcases blank.exponentLengths with ⟨noPlain, noSigned⟩
    rw [List.nil_append, noPlain, noSigned]
    rfl
  · rcases plain.lengths ends with ⟨full, none⟩
    rw [full, none]
    omega
  · rcases signed.lengths ends with ⟨full, none⟩
    rw [full, none]
    omega

/-- A digit does not follow the last digit of a run that an exponent or a gap ends. -/
theorem IsExponent.head?_eq_false
    {exponent gap : List Char} (isExponent : IsExponent exponent) (blank : IsGap gap) :
    ∀ next ∈ (exponent ++ gap).head?, isDecimalDigit next = false := by
  rcases isExponent with rfl | ⟨mark, digits, rfl, marked, -⟩ | ⟨mark, sign, digits, rfl, marked, -⟩
  · exact blank.head?_eq_false (by decide)
  · simp [isDecimalDigit_eq_false_of_isExponentMark marked]
  · simp [isDecimalDigit_eq_false_of_isExponentMark marked]

theorem exists_pointed
    {text : List Char} {length : Nat} (measured : pointedLength? text = some length) :
    ∃ lexeme rest, text = lexeme ++ rest ∧ length = lexeme.length ∧ IsPointed lexeme := by
  rcases exists_digits text with ⟨whole, later, rfl, counted, inside, -⟩
  simp only [pointedLength?, counted, List.drop_left] at measured
  split at measured
  · rename_i pointed
    split at measured
    · rename_i positive
      rcases exists_digits pointed with ⟨fraction, tail, rfl, fractionCounted, fractionInside, -⟩
      rcases exists_exponent tail with ⟨exponent, rest, rfl, isExponent, longest⟩
      rw [fractionCounted, List.drop_left, longest] at measured
      rw [fractionCounted] at positive
      cases measured
      refine ⟨whole ++ '.' :: (fraction ++ exponent), rest, by simp, ?_,
        whole, fraction, exponent, rfl, inside,
        ⟨List.length_pos_iff.1 positive, fractionInside⟩, isExponent⟩
      simp only [List.length_append, List.length_cons]
      omega
    · cases measured
  · cases measured

theorem exists_scaled
    {text : List Char} {length : Nat} (measured : scaledLength? text = some length) :
    ∃ lexeme rest, text = lexeme ++ rest ∧ length = lexeme.length ∧ IsScaled lexeme := by
  rcases exists_digits text with ⟨whole, later, rfl, counted, inside, -⟩
  rcases exists_signedExponent later with ⟨exponent, rest, rfl, exponentMeasured, form⟩
  simp only [scaledLength?, counted, List.drop_left, exponentMeasured] at measured
  split at measured
  · rename_i positive
    cases measured
    have isDigits : IsDigits whole := ⟨List.length_pos_iff.1 positive.1, inside⟩
    have isSigned := form.resolve_left (List.length_pos_iff.1 positive.2)
    exact ⟨whole ++ exponent, rest, by simp, by simp, whole, exponent, rfl, isDigits, isSigned⟩
  · cases measured

/-- What is measured as a decimal has one of its two forms. -/
theorem exists_decimal
    {text : List Char} {length : Nat}
    (measured : Pattern.decimal.matchLength text = some length) :
    ∃ lexeme rest,
      text = lexeme ++ rest ∧ length = lexeme.length ∧ (IsPointed lexeme ∨ IsScaled lexeme) := by
  rw [Pattern.matchLength, Option.or_eq_some_iff] at measured
  rcases measured with pointed | ⟨-, scaled⟩
  · rcases exists_pointed pointed with ⟨lexeme, rest, whole, size, form⟩
    exact ⟨lexeme, rest, whole, size, .inl form⟩
  · rcases exists_scaled scaled with ⟨lexeme, rest, whole, size, form⟩
    exact ⟨lexeme, rest, whole, size, .inr form⟩

theorem exists_integer
    {text : List Char} {length : Nat} (measured : integerLength? text = some length) :
    ∃ lexeme rest, text = lexeme ++ rest ∧ length = lexeme.length ∧ IsInteger lexeme := by
  rcases exists_digits text with ⟨whole, later, rfl, counted, inside, -⟩
  rcases exists_unsignedExponent later with ⟨exponent, rest, rfl, exponentMeasured, form⟩
  simp only [integerLength?, counted, List.drop_left, exponentMeasured] at measured
  split at measured
  · rename_i positive
    cases measured
    have isDigits : IsDigits whole := ⟨List.length_pos_iff.1 positive.1, inside⟩
    exact ⟨whole ++ exponent, rest, by simp, by simp, whole, exponent, rfl, isDigits, form⟩
  · cases measured

theorem IsPointed.length?
    {lexeme gap : List Char} (pointed : IsPointed lexeme) (blank : IsGap gap) :
    pointedLength? (lexeme ++ gap) = some lexeme.length := by
  rcases pointed with ⟨whole, fraction, exponent, rfl, inside, isDigits, isExponent⟩
  have counted : digitCount (whole ++ '.' :: (fraction ++ (exponent ++ gap))) = whole.length := by
    apply digitCount_append inside
    simp only [List.head?_cons, Option.mem_def, Option.some.injEq]
    rintro next rfl
    decide
  have fractionCounted := digitCount_append isDigits.2 (isExponent.head?_eq_false blank)
  have positive := List.length_pos_iff.2 isDigits.1
  simp only [pointedLength?, List.append_assoc, List.cons_append, counted, List.drop_left,
    fractionCounted, positive, if_true, isExponent.max_lengths blank, List.length_append,
    List.length_cons, Option.some.injEq]
  omega

/-- Digits without a point after them are no numeral with a point. -/
theorem pointedLength?_eq_none
    {whole tail : List Char}
    (inside : ∀ digit ∈ whole, isDecimalDigit digit = true)
    (ends : ∀ next ∈ tail.head?, isDecimalDigit next = false)
    (noPoint : ∀ next ∈ tail.head?, next ≠ '.') :
    pointedLength? (whole ++ tail) = none := by
  simp only [pointedLength?, digitCount_append inside ends, List.drop_left]
  cases tail with
  | nil => rfl
  | cons next later =>
      have other : next ≠ '.' := noPoint next rfl
      split
      · rename_i rest same
        cases same
        exact absurd rfl other
      · rfl

/-- No point follows the digits that an exponent or a gap ends. -/
theorem IsExponent.head?_ne_point
    {exponent gap : List Char} (isExponent : IsExponent exponent) (blank : IsGap gap) :
    ∀ next ∈ (exponent ++ gap).head?, next ≠ '.' := by
  rcases isExponent with rfl | ⟨mark, digits, rfl, marked, -⟩ | ⟨mark, sign, digits, rfl, marked, -⟩
  · intro next atHead
    rw [blank next atHead]
    decide
  · rintro next atHead rfl
    cases atHead
    cases marked
  · rintro next atHead rfl
    cases atHead
    cases marked

/-- A scaled numeral has no point and is measured in full at a gap. -/
theorem IsScaled.lengths?
    {lexeme gap : List Char} (scaled : IsScaled lexeme) (blank : IsGap gap) :
    pointedLength? (lexeme ++ gap) = none ∧
      scaledLength? (lexeme ++ gap) = some lexeme.length := by
  rcases scaled with ⟨whole, exponent, rfl, isDigits, isSigned⟩
  have isExponent : IsExponent exponent := .inr (.inr isSigned)
  have ends := isExponent.head?_eq_false blank
  have counted := digitCount_append isDigits.2 ends
  have measured := (isSigned.lengths (blank.head?_eq_false (by decide))).1
  have positive := List.length_pos_iff.2 isDigits.1
  have exponentPositive : 0 < exponent.length := by
    rcases isSigned with ⟨mark, sign, digits, rfl, -⟩
    simp
  rw [List.append_assoc]
  constructor
  · exact pointedLength?_eq_none isDigits.2 ends (isExponent.head?_ne_point blank)
  · simp [scaledLength?, counted, measured, positive, exponentPositive]

/-- An integer is no other numeral and is measured in full at a gap. -/
theorem IsInteger.lengths?
    {lexeme gap : List Char} (integer : IsInteger lexeme) (blank : IsGap gap) :
    pointedLength? (lexeme ++ gap) = none ∧
      scaledLength? (lexeme ++ gap) = none ∧
        integerLength? (lexeme ++ gap) = some lexeme.length := by
  rcases integer with ⟨whole, exponent, rfl, isDigits, form⟩
  have isExponent : IsExponent exponent := by
    rcases form with absent | plain
    · exact .inl absent
    · exact .inr (.inl plain)
  have ends := isExponent.head?_eq_false blank
  have counted := digitCount_append isDigits.2 ends
  have positive := List.length_pos_iff.2 isDigits.1
  have measured : unsignedExponentLength (exponent ++ gap) = exponent.length ∧
      signedExponentLength (exponent ++ gap) = 0 := by
    rcases form with rfl | plain
    · exact blank.exponentLengths
    · exact plain.lengths (blank.head?_eq_false (by decide))
  rw [List.append_assoc]
  refine ⟨pointedLength?_eq_none isDigits.2 ends (isExponent.head?_ne_point blank), ?_, ?_⟩
  · simp [scaledLength?, counted, measured.2]
  · simp [integerLength?, counted, measured.1, positive, blank.endsWord]

/-! ## Numerals as such -/

/-- A numeral of any of the three forms. -/
def IsNumeral (lexeme : List Char) : Prop :=
  IsPointed lexeme ∨ IsScaled lexeme ∨ IsInteger lexeme

theorem isNumeral_of_decimal
    {lexeme : List Char} (decimal : IsPointed lexeme ∨ IsScaled lexeme) :
    IsNumeral lexeme := by
  rcases decimal with pointed | scaled
  · exact .inl pointed
  · exact .inr (.inl scaled)

theorem isNumeralPart_append
    {whole exponent : List Char}
    (inside : ∀ digit ∈ whole, isDecimalDigit digit = true) (isExponent : IsExponent exponent) :
    ∀ part ∈ whole ++ exponent, isNumeralPart part = true := by
  intro part member
  rcases List.mem_append.1 member with inWhole | inExponent
  · exact isNumeralPart_of_isDecimalDigit (inside part inWhole)
  · exact isExponent.isNumeralPart part inExponent

theorem IsNumeral.isNumeralPart
    {lexeme : List Char} (numeral : IsNumeral lexeme) :
    ∀ part ∈ lexeme, isNumeralPart part = true := by
  rcases numeral with ⟨whole, fraction, exponent, rfl, inside, isDigits, isExponent⟩ |
    ⟨whole, exponent, rfl, isDigits, isSigned⟩ | ⟨whole, exponent, rfl, isDigits, form⟩
  · intro part member
    rw [List.mem_append, List.mem_cons] at member
    rcases member with inWhole | rfl | inFraction
    · exact isNumeralPart_of_isDecimalDigit (inside part inWhole)
    · rfl
    · exact isNumeralPart_append isDigits.2 isExponent part inFraction
  · exact isNumeralPart_append isDigits.2 (.inr (.inr isSigned))
  · apply isNumeralPart_append isDigits.2
    rcases form with absent | plain
    · exact .inl absent
    · exact .inr (.inl plain)

theorem IsNumeral.exists_head
    {lexeme : List Char} (numeral : IsNumeral lexeme) :
    ∃ first later,
      lexeme = first :: later ∧ (isDecimalDigit first = true ∨ first = '.') := by
  have ofDigits {whole : List Char} (isDigits : IsDigits whole) (exponent : List Char) :
      ∃ first later,
        whole ++ exponent = first :: later ∧ (isDecimalDigit first = true ∨ first = '.') := by
    rcases List.exists_cons_of_ne_nil isDigits.1 with ⟨first, later, rfl⟩
    exact ⟨first, later ++ exponent, rfl, .inl (isDigits.2 first List.mem_cons_self)⟩
  rcases numeral with ⟨whole, fraction, exponent, rfl, inside, -, -⟩ |
    ⟨whole, exponent, rfl, isDigits, -⟩ | ⟨whole, exponent, rfl, isDigits, -⟩
  · cases whole with
    | nil => exact ⟨'.', _, rfl, .inr rfl⟩
    | cons first later => exact ⟨first, _, rfl, .inl (inside first List.mem_cons_self)⟩
  · exact ofDigits isDigits exponent
  · exact ofDigits isDigits exponent

end FindQuery.Lexis
