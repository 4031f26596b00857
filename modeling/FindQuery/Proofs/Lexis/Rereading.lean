import FindQuery.Proofs.Lexis.Comment
import FindQuery.Proofs.Lexis.Lexeme

/-!
# Lexemes that are read again

A spelling is read again when, wherever a gap follows it, the comment pass leaves it
alone and the scanner takes all of it as one token of the same tag, kind and text.
Every class of lexemes has such spellings.
-/

namespace FindQuery.Lexis

open FindQuery.Text

/-- A spelling that is read as one token, with a given tag, kind and text, before any gap. -/
structure Rereads (tag : Tag) (kind : Kind) (text spelling : List Char) : Prop where
  found : ∀ gap, IsGap gap → firstMatch? (spelling ++ gap) = some (tag, spelling.length)
  meaning : interpret? tag spelling = some (kind, text)
  shown : ∀ gap, IsGap gap → normalize (spelling ++ gap) = spelling ++ normalize gap
  visible : ∃ first rest, spelling = first :: rest ∧ isBlank first = false

/-! ## The rules that come first -/

/-- Where neither a word nor a sign can start, the rules for literals decide. -/
theorem firstMatch?_eq_literalMatch?
    {first : Char} (noLetter : isLetterForm first = false)
    (noSign : isSignStart first = false) (rest : List Char) :
    firstMatch? (first :: rest) = literalMatch? (first :: rest) := by
  have noRun : letterRun (first :: rest) = [] := by
    simp [letterRun, noLetter]
  rw [firstMatch?_eq_or, wordMatch?_eq_none_of_letterRun noRun,
    signMatch?_eq_none_of_head noSign, Option.none_or, Option.none_or]

theorem literalMatch?_of_quoted
    {text : List Char} {length : Nat} (positive : 0 < length)
    (quoted : quotedLength? text = some length) :
    literalMatch? text = some (.string, length) := by
  simp [literalMatch?, literalRules, Rule.matchLength, Pattern.matchLength, quoted, positive]

theorem literalMatch?_of_name
    {text : List Char} {length : Nat} (positive : 0 < length)
    (noQuote : quotedLength? text = none) (named : nameLength? text = some length) :
    literalMatch? text = some (.ident, length) := by
  simp [literalMatch?, literalRules, Rule.matchLength, Pattern.matchLength, noQuote, named,
    positive]

theorem literalMatch?_of_decimal
    {text : List Char} {length : Nat} (positive : 0 < length)
    (noQuote : quotedLength? text = none) (noName : nameLength? text = none)
    (decimal : Pattern.decimal.matchLength text = some length) :
    literalMatch? text = some (.float, length) := by
  simp [literalMatch?, literalRules, Rule.matchLength, decimal, positive,
    show Pattern.quoted.matchLength text = none from noQuote,
    show Pattern.name.matchLength text = none from noName]

theorem literalMatch?_of_integer
    {text : List Char} {length : Nat} (positive : 0 < length)
    (noQuote : quotedLength? text = none) (noName : nameLength? text = none)
    (noDecimal : Pattern.decimal.matchLength text = none)
    (integer : integerLength? text = some length) :
    literalMatch? text = some (.int, length) := by
  simp [literalMatch?, literalRules, Rule.matchLength, noDecimal, positive,
    show Pattern.quoted.matchLength text = none from noQuote,
    show Pattern.name.matchLength text = none from noName,
    show Pattern.integer.matchLength text = some length from integer]

/-! ## Quoted texts -/

/-- A quoted text without tabs and line breaks is read again. -/
theorem rereads_quoted
    {quote : Char} {body : List Char}
    (isOne : isQuote quote = true) (fresh : quote ∉ body)
    (straight : ∀ character ∈ body, IsStraight character) :
    Rereads .string .literal body (quote :: (body ++ [quote])) where
  found := by
    intro gap blank
    have noLetter : isLetterForm quote = false := by
      rcases (isQuote_iff quote).1 isOne with rfl | rfl <;> decide
    have noSign : isSignStart quote = false := by
      rw [← Bool.not_eq_true]
      intro starts
      exact absurd isOne (ne_true_of_eq_false (literalStart_of_isSignStart starts).2.2.1)
    rw [enclosed_append, length_enclosed, firstMatch?_eq_literalMatch? noLetter noSign,
      literalMatch?_of_quoted (by omega) (quotedLength?_of_fresh isOne fresh gap)]
  meaning := by
    simp [interpret?]
  shown := by
    intro gap blank
    rw [enclosed_append, normalize_append_of_quoted isOne fresh straight, enclosed_append]
  visible := ⟨quote, body ++ [quote], rfl, isBlank_eq_false_of_isQuote isOne⟩

/-! ## Names -/

theorem IsName.opensSegment_eq_false
    {name : List Char} (isName : IsName name) :
    ∀ character ∈ name, opensSegment character = false := by
  intro character member
  exact Lexis.opensSegment_eq_false (by decide) (isName.isNamePart character member)

theorem IsName.isStraight
    {name : List Char} (isName : IsName name) :
    ∀ character ∈ name, IsStraight character := by
  intro character member
  exact isStraight_of_class (by decide) (isName.isNamePart character member)

theorem IsName.normalize_eq
    {name : List Char} (isName : IsName name) : normalize name = name := by
  have shown := normalize_append_of_plain isName.opensSegment_eq_false isName.isStraight []
  rwa [normalize_nil, List.append_nil] at shown

theorem rereads_bracketed
    {name : List Char} (isName : IsName name) :
    Rereads .ident .literal name ('[' :: (name ++ [']'])) where
  found := by
    intro gap blank
    have measured : nameLength? ('[' :: (name ++ ']' :: gap)) = some (name.length + 2) :=
      (nameLength?_eq_some_iff _ _).2 (.inl ⟨name, gap, isName, rfl, rfl⟩)
    rw [enclosed_append, length_enclosed,
      firstMatch?_eq_literalMatch? (by decide) (by decide),
      literalMatch?_of_name (by omega) (by rfl) measured]
  meaning := by
    simp [interpret?, unbracket]
  shown := by
    intro gap blank
    apply normalize_append_of_plain
    · intro character member
      simp only [List.mem_cons, List.mem_append, List.not_mem_nil, or_false] at member
      rcases member with rfl | inName | rfl
      · decide
      · exact isName.opensSegment_eq_false character inName
      · decide
    · intro character member
      simp only [List.mem_cons, List.mem_append, List.not_mem_nil, or_false] at member
      rcases member with rfl | inName | rfl
      · rfl
      · exact isName.isStraight character inName
      · rfl
  visible := ⟨'[', name ++ [']'], rfl, by decide⟩

/-- A bare name whose leading word is not reserved is read again. -/
theorem rereads_bare
    {name : List Char} (isName : IsName name) (free : isShadowed name = false) :
    Rereads .ident .literal name name where
  found := by
    intro gap blank
    have measured : nameLength? (name ++ gap) = some name.length := by
      apply (nameLength?_eq_some_iff _ _).2
      exact .inr ⟨name, gap, isName, blank.head?_eq_false (by decide), rfl, rfl⟩
    have noWord := wordMatch?_of_not_isShadowed isName blank free
    have opens := isName.opensSegment_eq_false
    rcases isName with ⟨first, parts, rfl, starts, inside⟩
    have noSign : isSignStart first = false := by
      rw [← Bool.not_eq_true]
      intro sign
      exact absurd starts (ne_true_of_eq_false (literalStart_of_isSignStart sign).1)
    have plain := opens first List.mem_cons_self
    rw [opensSegment, Bool.or_eq_false_iff] at plain
    have noQuote := quotedLength?_eq_none_of_head plain.1 (parts ++ gap)
    rw [firstMatch?_eq_or, noWord, Option.none_or, List.cons_append,
      signMatch?_eq_none_of_head noSign, Option.none_or]
    exact literalMatch?_of_name (by simp) noQuote measured
  meaning := interpret?_of_isName isName
  shown := by
    intro gap blank
    exact normalize_append_of_plain isName.opensSegment_eq_false isName.isStraight gap
  visible := by
    rcases isName with ⟨first, parts, rfl, starts, inside⟩
    exact ⟨first, parts, rfl, isBlank_eq_false_of_isNameStart starts⟩

/-! ## Numerals -/

theorem IsNumeral.opensSegment_eq_false
    {lexeme : List Char} (numeral : IsNumeral lexeme) :
    ∀ character ∈ lexeme, opensSegment character = false := by
  intro character member
  exact Lexis.opensSegment_eq_false (by decide) (numeral.isNumeralPart character member)

theorem IsNumeral.isStraight
    {lexeme : List Char} (numeral : IsNumeral lexeme) :
    ∀ character ∈ lexeme, IsStraight character := by
  intro character member
  exact isStraight_of_class (by decide) (numeral.isNumeralPart character member)

/-- Only the rules for numerals match at the start of a numeral. -/
theorem IsNumeral.others_eq_none
    {lexeme : List Char} (numeral : IsNumeral lexeme) (gap : List Char) :
    firstMatch? (lexeme ++ gap) = literalMatch? (lexeme ++ gap) ∧
      quotedLength? (lexeme ++ gap) = none ∧ nameLength? (lexeme ++ gap) = none := by
  have opens := numeral.opensSegment_eq_false
  rcases numeral.exists_head with ⟨first, later, rfl, starts⟩
  have plain := opens first List.mem_cons_self
  rw [opensSegment, Bool.or_eq_false_iff] at plain
  have noLetter : isLetterForm first = false := by
    rcases starts with digit | rfl
    · exact isLetterForm_eq_false_of_isDecimalDigit digit
    · decide
  have noSign : isSignStart first = false := by
    rw [← Bool.not_eq_true]
    intro sign
    rcases literalStart_of_isSignStart sign with ⟨-, noDigit, -, -, noPoint⟩
    rcases starts with digit | rfl
    · exact absurd digit (ne_true_of_eq_false noDigit)
    · exact noPoint rfl
  have noName : isNameStart first = false := by
    rcases starts with digit | rfl
    · exact isNameStart_eq_false_of_isDecimalDigit digit
    · decide
  refine ⟨firstMatch?_eq_literalMatch? noLetter noSign _,
    quotedLength?_eq_none_of_head plain.1 _, ?_⟩
  rw [List.cons_append, nameLength?, bareNameLength?, noName]
  · rfl
  · rintro rest same
    cases same
    rcases starts with digit | point
    · revert digit
      decide
    · cases point

theorem IsNumeral.normalize_append
    {lexeme : List Char} (numeral : IsNumeral lexeme) (rest : List Char) :
    normalize (lexeme ++ rest) = lexeme ++ normalize rest :=
  normalize_append_of_plain numeral.opensSegment_eq_false numeral.isStraight rest

theorem IsNumeral.visible
    {lexeme : List Char} (numeral : IsNumeral lexeme) :
    ∃ first rest, lexeme = first :: rest ∧ isBlank first = false := by
  have parts := numeral.isNumeralPart
  rcases numeral.exists_head with ⟨first, later, rfl, -⟩
  exact ⟨first, later, rfl,
    isBlank_eq_false_of_class (by decide) (parts first List.mem_cons_self)⟩

theorem rereads_decimal
    {lexeme : List Char} (decimal : IsPointed lexeme ∨ IsScaled lexeme) :
    Rereads .float .literal lexeme lexeme where
  found := by
    intro gap blank
    have numeral := isNumeral_of_decimal decimal
    rcases numeral.others_eq_none gap with ⟨literal, noQuote, noName⟩
    have measured : Pattern.decimal.matchLength (lexeme ++ gap) = some lexeme.length := by
      rcases decimal with pointed | scaled
      · rw [Pattern.matchLength, pointed.length? blank, Option.some_or]
      · rcases scaled.lengths? blank with ⟨noPoint, full⟩
        rw [Pattern.matchLength, noPoint, full, Option.none_or]
    rcases numeral.exists_head with ⟨first, later, rfl, -⟩
    rw [literal, literalMatch?_of_decimal (by simp) noQuote noName measured]
  meaning := rfl
  shown := fun gap _ => (isNumeral_of_decimal decimal).normalize_append gap
  visible := (isNumeral_of_decimal decimal).visible

theorem rereads_integer
    {lexeme : List Char} (integer : IsInteger lexeme) :
    Rereads .int .literal lexeme lexeme where
  found := by
    intro gap blank
    have numeral : IsNumeral lexeme := .inr (.inr integer)
    rcases numeral.others_eq_none gap with ⟨literal, noQuote, noName⟩
    rcases integer.lengths? blank with ⟨noPoint, noScale, full⟩
    have noDecimal : Pattern.decimal.matchLength (lexeme ++ gap) = none := by
      rw [Pattern.matchLength, noPoint, noScale, Option.none_or]
    rcases numeral.exists_head with ⟨first, later, rfl, -⟩
    rw [literal, literalMatch?_of_integer (by simp) noQuote noName noDecimal full]
  meaning := rfl
  shown := fun gap _ => IsNumeral.normalize_append (.inr (.inr integer)) gap
  visible := IsNumeral.visible (.inr (.inr integer))

/-! ## Words and signs -/

/-- A reserved word is read again, whatever its case forms are, if it has a kind. -/
theorem rereads_word
    {lexeme : List Char} {tag : Tag} {kind : Kind}
    (letters : ∀ character ∈ lexeme, isLetterForm character = true)
    (tagged : wordTag? (lexeme.map foldCase) = some tag)
    (known : Keyword.kindOf? lexeme = some kind) :
    Rereads tag kind lexeme lexeme where
  found := by
    intro gap blank
    have run := letterRun_append letters blank.endsWord
    have word : wordMatch? (lexeme ++ gap) = some (tag, lexeme.length) := by
      apply (wordMatch?_eq_some_iff _ _ _).2
      rw [run, List.drop_left]
      exact ⟨tagged, blank.endsWord, rfl⟩
    rw [firstMatch?_eq_or, word, Option.some_or]
  meaning := by
    rw [interpret?_of_isLiteral (isLiteral_of_wordTag? tagged), known, Option.map_some]
  shown := by
    intro gap blank
    apply normalize_append_of_plain
    · intro character member
      exact opensSegment_eq_false (by decide) (letters character member)
    · intro character member
      exact isStraight_of_class (by decide) (letters character member)
  visible := by
    cases lexeme with
    | nil => cases (show wordTag? [] = none by decide).symm.trans tagged
    | cons first rest =>
        have letter := letters first List.mem_cons_self
        exact ⟨first, rest, rfl, isBlank_eq_false_of_isLetterForm letter⟩

theorem rereads_sign
    {sign : Tag × String} {kind : Kind} (member : sign ∈ signs)
    (known : Keyword.kindOf? sign.2.toList = some kind) :
    Rereads sign.1 kind sign.2.toList sign.2.toList where
  found := by
    intro gap blank
    have found : signMatch? (sign.2.toList ++ gap) = some (sign.1, sign.2.toList.length) := by
      rw [signMatch?_append blank, signMatch?_of_mem_signs sign member]
    have parts := parts_of_mem_signs sign member
    have noRun : letterRun (sign.2.toList ++ gap) = [] := by
      cases spelled : sign.2.toList with
      | nil => exact absurd spelled (signs_ne_nil sign member)
      | cons first rest =>
          have noLetter := (parts first (spelled ▸ List.mem_cons_self)).1
          simp [letterRun, noLetter]
    rw [firstMatch?_eq_or, wordMatch?_eq_none_of_letterRun noRun, found, Option.none_or,
      Option.some_or]
  meaning := by
    rw [interpret?_of_isLiteral (isLiteral_of_mem_signs sign member), known, Option.map_some]
  shown := by
    intro gap blank
    have parts := parts_of_mem_signs sign member
    -- A slash could open a comment, but not before a gap.
    by_cases slash : sign.2.toList = ['/']
    · have noComment : commentLength? ('/' :: gap) = none := by
        rcases blank.eq_nil_or_cons with rfl | ⟨later, rfl⟩
        · rfl
        · rfl
      rw [slash]
      exact normalize_cons_of_plain (quotedLength?_eq_none_of_head rfl gap) noComment rfl
    · apply normalize_append_of_plain
      · intro part inSign
        exact (parts part inSign).2.2.2.resolve_left slash
      · intro part inSign
        exact (parts part inSign).2.2.1
  visible := by
    have parts := parts_of_mem_signs sign member
    cases spelled : sign.2.toList with
    | nil => exact absurd spelled (signs_ne_nil sign member)
    | cons first rest => exact ⟨first, rest, rfl, (parts first (spelled ▸ List.mem_cons_self)).2.1⟩

/-! ## Scanned tokens -/

theorem source_of_ne
    {token : Token} (noString : token.tag ≠ .string) (noName : token.tag ≠ .ident) :
    token.source = token.text := by
  rw [Token.source]
  split <;> simp_all

/-- A word or a sign is spelled as it was written. -/
theorem source_of_isLiteral
    {token : Token} (word : token.tag.isLiteral = false) :
    token.source = token.text := by
  apply source_of_ne
  · intro string
    rw [string] at word
    cases word
  · intro ident
    rw [ident] at word
    cases word

/-- A string is spelled in a quote that its text leaves free, if there is one. -/
theorem exists_quote_of_source
    {token : Token} {quote : Char} (string : token.tag = .string)
    (isOne : isQuote quote = true) (fresh : quote ∉ token.text.toList) :
    ∃ spare, isQuote spare = true ∧ spare ∉ token.text.toList ∧
      token.source.toList = spare :: (token.text.toList ++ [spare]) := by
  rw [Token.source, string]
  simp only
  by_cases single : token.text.toList.contains '\'' = true
  · have member := List.contains_iff_mem.1 single
    refine ⟨'"', rfl, ?_, ?_⟩
    · rcases (isQuote_iff quote).1 isOne with rfl | rfl
      · exact absurd member fresh
      · exact fresh
    · rw [if_pos single]
      simp
  · refine ⟨'\'', rfl, ?_, ?_⟩
    · exact fun member => single (List.contains_iff_mem.2 member)
    · rw [if_neg single]
      simp

theorem rereads_of_isName
    {token : Token} (ident : token.tag = .ident) (literal : token.kind = .literal)
    (isName : IsName token.text.toList) :
    Rereads token.tag token.kind token.text.toList token.source.toList := by
  rw [ident, literal, Token.source, ident]
  simp only
  by_cases shadowed : isShadowed token.text.toList = true
  · rw [if_pos shadowed]
    simpa using rereads_bracketed isName
  · rw [if_neg shadowed]
    exact rereads_bare isName (eq_false_of_ne_true shadowed)

/-- A token is read again from its spelling, whatever the class of its lexeme. -/
theorem rereads_of_isLexeme
    {token : Token} {lexeme : List Char}
    (straight : ∀ character ∈ lexeme, IsStraight character)
    (isLexeme : IsLexeme token.tag lexeme)
    (meaning : interpret? token.tag lexeme = some (token.kind, token.text.toList)) :
    Rereads token.tag token.kind token.text.toList token.source.toList := by
  generalize spelledTag : token.tag = tag at isLexeme meaning ⊢
  cases isLexeme with
  | word forms tagged =>
      have notLiteral := isLiteral_of_wordTag? tagged
      rw [interpret?_of_isLiteral notLiteral] at meaning
      rcases Option.map_eq_some_iff.1 meaning with ⟨kind, known, equal⟩
      cases equal
      rw [source_of_isLiteral (spelledTag ▸ notLiteral)]
      exact rereads_word forms tagged known
  | @sign sign listed =>
      have notLiteral := isLiteral_of_mem_signs sign listed
      rw [interpret?_of_isLiteral notLiteral] at meaning
      rcases Option.map_eq_some_iff.1 meaning with ⟨kind, known, equal⟩
      rw [Prod.mk.injEq] at equal
      rcases equal with ⟨rfl, same⟩
      rw [source_of_isLiteral (spelledTag ▸ notLiteral), ← same]
      exact rereads_sign listed known
  | @quoted quote body isOne fresh =>
      have straightBody : ∀ character ∈ body, IsStraight character := fun character member =>
        straight character (List.mem_cons_of_mem _ (List.mem_append_left _ member))
      rw [(rereads_quoted isOne fresh straightBody).meaning, Option.some.injEq,
        Prod.mk.injEq] at meaning
      rcases meaning with ⟨literal, rfl⟩
      rcases exists_quote_of_source spelledTag isOne fresh with ⟨spare, isSpare, free, spelled⟩
      rw [spelled, ← literal]
      exact rereads_quoted isSpare free straightBody
  | bracketed isName =>
      rw [(rereads_bracketed isName).meaning, Option.some.injEq, Prod.mk.injEq] at meaning
      rcases meaning with ⟨literal, rfl⟩
      exact spelledTag ▸ rereads_of_isName spelledTag literal.symm isName
  | bare isName =>
      rw [interpret?_of_isName isName, Option.some.injEq, Prod.mk.injEq] at meaning
      rcases meaning with ⟨literal, rfl⟩
      exact spelledTag ▸ rereads_of_isName spelledTag literal.symm isName
  | decimal form =>
      have again := rereads_decimal form
      rw [again.meaning, Option.some.injEq, Prod.mk.injEq] at meaning
      rcases meaning with ⟨literal, rfl⟩
      rw [source_of_ne (by simp [spelledTag]) (by simp [spelledTag]), ← literal]
      exact again
  | integer form =>
      have again := rereads_integer form
      rw [again.meaning, Option.some.injEq, Prod.mk.injEq] at meaning
      rcases meaning with ⟨literal, rfl⟩
      rw [source_of_ne (by simp [spelledTag]) (by simp [spelledTag]), ← literal]
      exact again

/-- Every token that a step reads is read again from its spelling. -/
theorem rereads_of_step
    {position after : Position} {token : Token}
    (straight : ∀ character ∈ position.rest, IsStraight character)
    (read : step position = .token token after) :
    Rereads token.tag token.kind token.text.toList token.source.toList := by
  rcases exists_lexeme_of_step read with ⟨lexeme, rest, whole, isLexeme, -, meaning, -, -⟩
  apply rereads_of_isLexeme _ isLexeme meaning
  intro character member
  have inRest : character ∈ position.skipBlanks.rest := by
    rw [whole]
    exact List.mem_append_left _ member
  rw [rest_skipBlanks] at inRest
  exact straight character ((List.dropWhile_sublist _).mem inRest)

/-! ## Queries of one token -/

/-- A query that is shown as the spelling of a token has this token and no other. -/
theorem tokenize_of_normalize
    {query : String} {tag : Tag} {kind : Kind} {text spelling : List Char}
    (shown : normalize query.toList = spelling) (again : Rereads tag kind text spelling) :
    tokenize query =
      .ok [⟨kind, tag, String.ofList text, ⟨0, byteLength spelling⟩⟩] := by
  have found := again.found [] isGap_nil
  have read := step_append found again.meaning again.visible 0
  have ended (offset : Nat) : scan ⟨offset, []⟩ = ⟨[], none⟩ := scan_of_finished rfl
  rw [List.append_nil] at read
  rw [tokenize_eq_ok_iff, startOf, shown, scan_of_token read, ended, Nat.zero_add]

theorem tokenize_of_rereads
    {query : String} {tag : Tag} {kind : Kind} {text : List Char}
    (again : Rereads tag kind text query.toList) :
    tokenize query =
      .ok [⟨kind, tag, String.ofList text, ⟨0, query.utf8ByteSize⟩⟩] := by
  have shown := again.shown [] isGap_nil
  rw [List.append_nil, normalize_nil, List.append_nil] at shown
  rw [tokenize_of_normalize shown again, utf8ByteSize_eq_byteLength]

/-- A quoted text is a string, whatever else is in it. -/
theorem tokenize_of_quoted
    {quote : Char} {body : List Char} (isOne : isQuote quote = true) (fresh : quote ∉ body) :
    ∃ span,
      tokenize (String.ofList (quote :: (body ++ [quote]))) =
        .ok [⟨.literal, .string, String.ofList (body.map Segment.straighten), span⟩] := by
  have straight : ∀ character ∈ body.map Segment.straighten, IsStraight character := by
    intro character member
    rcases List.mem_map.1 member with ⟨original, -, rfl⟩
    exact isStraight_straighten original
  have shown : normalize (String.ofList (quote :: (body ++ [quote]))).toList =
      quote :: (body.map Segment.straighten ++ [quote]) := by
    rw [String.toList_ofList, normalize_cons_of_quoted isOne fresh, normalize_nil]
  exact ⟨_, tokenize_of_normalize shown
    (rereads_quoted isOne (not_mem_map_straighten isOne fresh) straight)⟩

end FindQuery.Lexis
