import FindQuery.Proofs.Lexis.Lexeme

/-!
# Texts before a gap

Every rule is blind to a space after the text.  What the scanner reads in a text is
therefore read in the same way when a gap follows the text, and the scan goes on after
the gap.
-/

namespace FindQuery.Lexis

open FindQuery.Text

section

variable {gap : List Char} (blank : IsGap gap)

include blank

/-! ## Words -/

theorem endsWord_append_gap (text : List Char) :
    endsWord (text ++ gap) = endsWord text := by
  cases text with
  | nil => exact blank.endsWord
  | cons first rest => rfl

theorem takeWhile_append_gap
    {p : Char → Bool} (outside : p ' ' = false)
    (text : List Char) :
    (text ++ gap).takeWhile p = text.takeWhile p ∧
      (text ++ gap).drop (text.takeWhile p).length =
        text.drop (text.takeWhile p).length ++ gap := by
  constructor
  · exact takeWhile_append_eq_of_head? (blank.head?_eq_false outside) text
  · exact List.drop_append_of_le_length (List.takeWhile_prefix p).length_le

theorem wordMatch?_append_gap (text : List Char) :
    wordMatch? (text ++ gap) = wordMatch? text := by
  rcases takeWhile_append_gap blank (p := isLetterForm) (by decide) text with ⟨run, after⟩
  rw [wordMatch?, wordMatch?, wordAhead?, wordAhead?, letterRun, letterRun, run, after,
    endsWord_append_gap blank]

/-! ## Names -/

theorem bareNameLength?_append_gap (text : List Char) :
    bareNameLength? (text ++ gap) = bareNameLength? text := by
  cases text with
  | nil =>
      rcases blank.eq_nil_or_cons with rfl | ⟨later, rfl⟩
      · rfl
      · rfl
  | cons first rest =>
      rw [List.cons_append, bareNameLength?, bareNameLength?,
        (takeWhile_append_gap blank (p := isNamePart) (by decide) rest).1]

omit blank in
theorem bareNameLength?_le
    {text : List Char} {length : Nat} (measured : bareNameLength? text = some length) :
    length ≤ text.length := by
  rcases (bareNameLength?_eq_some_iff _ _).1 measured with ⟨name, rest, -, -, rfl, rfl⟩
  simp

theorem nameLength?_append_gap (text : List Char) :
    nameLength? (text ++ gap) = nameLength? text := by
  by_cases bracket : text.head? = some '['
  · rcases List.head?_eq_some_iff.1 bracket with ⟨rest, rfl⟩
    rw [List.cons_append, nameLength?, nameLength?, bareNameLength?_append_gap blank]
    cases measured : bareNameLength? rest with
    | none => rfl
    | some length =>
        simp only
        rw [List.drop_append_of_le_length (bareNameLength?_le measured)]
        cases after : rest.drop length with
        | cons next later => rfl
        | nil =>
            have open? : gap.head? ≠ some ']' := by
              intro closes
              cases blank ']' closes
            simp [open?]
  · have noBracket : (text ++ gap).head? ≠ some '[' := by
      rw [List.head?_append]
      intro opens
      rcases Option.or_eq_some_iff.1 opens with inText | ⟨-, inGap⟩
      · exact bracket inText
      · cases blank '[' inGap
    rw [nameLength?_of_head? noBracket, nameLength?_of_head? bracket,
      bareNameLength?_append_gap blank]

/-! ## Numerals -/

theorem digitCount_append_gap (text : List Char) :
    digitCount (text ++ gap) = digitCount text ∧
      (text ++ gap).drop (digitCount text) =
        text.drop (digitCount text) ++ gap := by
  rcases takeWhile_append_gap blank (p := isDecimalDigit) (by decide) text with ⟨run, after⟩
  exact ⟨congrArg List.length run, after⟩

theorem unsignedExponentLength_append_gap (text : List Char) :
    unsignedExponentLength (text ++ gap) = unsignedExponentLength text := by
  cases text with
  | nil => exact blank.exponentLengths.1
  | cons mark rest =>
      rw [List.cons_append, unsignedExponentLength, unsignedExponentLength,
        (digitCount_append_gap blank rest).1]

theorem signedExponentLength_append_gap (text : List Char) :
    signedExponentLength (text ++ gap) = signedExponentLength text := by
  cases text with
  | nil => exact blank.exponentLengths.2
  | cons mark others =>
      cases others with
      | nil =>
          rcases blank.eq_nil_or_cons with rfl | ⟨later, rfl⟩
          · rfl
          · simp [signedExponentLength, isExponentSign]
      | cons sign rest =>
          rw [List.cons_append, List.cons_append, signedExponentLength,
            signedExponentLength, (digitCount_append_gap blank rest).1]

theorem pointedLength?_append_gap (text : List Char) :
    pointedLength? (text ++ gap) = pointedLength? text := by
  rcases digitCount_append_gap blank text with ⟨counted, after⟩
  simp only [pointedLength?, counted, after]
  cases text.drop (digitCount text) with
  | nil =>
      rcases blank.eq_nil_or_cons with rfl | ⟨later, rfl⟩
      · rfl
      · rfl
  | cons point rest =>
      by_cases isPoint : point = '.'
      · subst isPoint
        rcases digitCount_append_gap blank rest with ⟨fraction, tail⟩
        simp only [List.cons_append, fraction, tail, signedExponentLength_append_gap blank,
          unsignedExponentLength_append_gap blank]
      · simp [isPoint]

theorem scaledLength?_append_gap (text : List Char) :
    scaledLength? (text ++ gap) = scaledLength? text := by
  rcases digitCount_append_gap blank text with ⟨counted, after⟩
  simp only [scaledLength?, counted, after, signedExponentLength_append_gap blank]

theorem integerLength?_append_gap (text : List Char) :
    integerLength? (text ++ gap) = integerLength? text := by
  rcases digitCount_append_gap blank text with ⟨counted, after⟩
  rcases exists_unsignedExponent (text.drop (digitCount text)) with
    ⟨exponent, rest, split, size, -⟩
  have fits : digitCount text + exponent.length ≤ text.length := by
    have whole := congrArg List.length split
    have counts : digitCount text ≤ text.length := (List.takeWhile_prefix _).length_le
    rw [List.length_drop, List.length_append] at whole
    omega
  simp only [integerLength?, counted, after, unsignedExponentLength_append_gap blank, size,
    List.drop_append_of_le_length fits, endsWord_append_gap blank]

/-! ## All rules -/

omit blank in
/-- A quoted text that something can be read of is closed before the gap. -/
theorem quotedLength?_append_of_literalMatch?
    {text : List Char} {tag : Tag} {length : Nat}
    (found : literalMatch? text = some (tag, length)) (nonempty : 0 < length) :
    quotedLength? (text ++ gap) = quotedLength? text := by
  rcases exists_lexeme_of_literalMatch? found with ⟨lexeme, rest, rfl, rfl, isLexeme⟩
  by_cases string : tag = .string
  · rcases isLexeme.exists_quotes string with ⟨quote, body, isOne, fresh, rfl⟩
    rw [List.append_assoc, enclosed_append, enclosed_append, quotedLength?_of_fresh isOne fresh,
      quotedLength?_of_fresh isOne fresh]
  · rcases List.exists_cons_of_length_pos nonempty with ⟨first, later, rfl⟩
    have noQuote := (isLexeme.isSolid string).isQuote_eq_false first List.mem_cons_self
    exact (quotedLength?_eq_none_of_head noQuote _).trans
      (quotedLength?_eq_none_of_head noQuote _).symm

theorem literalMatch?_append_gap
    {text : List Char} {tag : Tag} {length : Nat}
    (found : literalMatch? text = some (tag, length)) (nonempty : 0 < length) :
    literalMatch? (text ++ gap) = some (tag, length) := by
  rw [← found]
  simp only [literalMatch?, literalRules, List.findSome?_cons, List.findSome?_nil,
    Rule.matchLength, Pattern.matchLength, quotedLength?_append_of_literalMatch? found nonempty,
    nameLength?_append_gap blank, pointedLength?_append_gap blank,
    scaledLength?_append_gap blank, integerLength?_append_gap blank]

/-- What the rules find in a text they find in it before a gap as well. -/
theorem firstMatch?_append_gap
    {text : List Char} {tag : Tag} {length : Nat}
    (found : firstMatch? text = some (tag, length)) :
    firstMatch? (text ++ gap) = some (tag, length) := by
  have nonempty := firstMatch?_pos found
  rw [firstMatch?_eq_or] at found ⊢
  rw [wordMatch?_append_gap blank, signMatch?_append blank]
  rw [Option.or_eq_some_iff, Option.or_eq_some_iff] at found ⊢
  rcases found with word | ⟨noWord, sign | ⟨noSign, literal⟩⟩
  · exact .inl word
  · exact .inr ⟨noWord, .inl sign⟩
  · exact .inr ⟨noWord, .inr ⟨noSign, literalMatch?_append_gap blank literal nonempty⟩⟩

/-! ## Scans -/

/-- A token before a gap is read as such. -/
theorem step_append_gap
    {offset : Nat} {text : List Char} {token : Token} {after : Position}
    (read : step ⟨offset, text⟩ = .token token after) :
    step ⟨offset, text ++ gap⟩ = .token token ⟨after.offset, after.rest ++ gap⟩ := by
  rcases exists_run isBlank text with ⟨run, visible, rfl, -, blanks, solid⟩
  rw [step_append_of_blank blanks] at read
  rw [List.append_assoc, step_append_of_blank blanks]
  rcases exists_lexeme_of_step read with
    ⟨lexeme, rest, whole, -, found, meaning, spanned, rfl⟩
  rw [skipBlanks_of_visible solid] at whole spanned
  simp only at whole
  subst whole
  rcases List.exists_cons_of_length_pos (firstMatch?_pos found) with ⟨first, later, spelled⟩
  have starts : ∃ first later, lexeme = first :: later ∧ isBlank first = false := by
    refine ⟨first, later, spelled, solid first ?_⟩
    rw [spelled]
    rfl
  have foundBefore := firstMatch?_append_gap blank found
  rw [List.append_assoc] at foundBefore ⊢
  simp only at spanned
  rw [step_append foundBefore meaning starts, String.ofList_toList, ← spanned,
    skipBlanks_of_visible solid]

/-- The tokens of a text before a gap are those of the text and those after the gap. -/
theorem scan_append_gap
    (position : Position) (faultless : (scan position).fault? = none) :
    scan ⟨position.offset, position.rest ++ gap⟩ =
      ⟨(scan position).tokens ++
          (scan ⟨position.offset + byteLength position.rest, gap⟩).tokens,
        (scan ⟨position.offset + byteLength position.rest, gap⟩).fault?⟩ := by
  induction position using scan.induct with
  | case1 position ended =>
      have blanks : ∀ character ∈ position.rest, isBlank character = true := by
        rw [step_eq_finished_iff, rest_skipBlanks] at ended
        exact List.dropWhile_eq_nil_iff.1 ended
      rw [scan_of_finished ended, scan_congr (step_append_of_blank blanks _ _), List.nil_append]
  | case2 position cause offset failed =>
      rw [scan_of_fault failed] at faultless
      cases faultless
  | case3 position token after read hypothesis =>
      rw [scan_of_token read] at faultless ⊢
      have onward := hypothesis faultless
      rw [scan_of_token (step_append_gap blank read), onward, end_of_step read, List.cons_append]

end

end FindQuery.Lexis
