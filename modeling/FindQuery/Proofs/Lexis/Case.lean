import FindQuery.Proofs.Lexis.Comment
import FindQuery.Proofs.Lexis.Lexeme
import FindQuery.Proofs.Text.Case
import Mathlib.Data.List.Forall2

/-!
# Letter case in queries

No class of characters that a rule or the comment pass looks at tells a small letter from its
capital, and neither does the table of spellings.  Each part of the lexer therefore does with a
query in upper case what it does with the query, and so two queries that differ in case alone
have the same tokens but for the case of their texts, or fail in the same way at one place.
-/

namespace FindQuery

open FindQuery.Text

namespace Lexis

/-! ## Classes of characters -/

theorem ignoresCase_isQuote : IgnoresCase isQuote :=
  ignoresCase_of_smallLetters (by decide)

theorem ignoresCase_isNameStart : IgnoresCase isNameStart :=
  ignoresCase_of_smallLetters (by decide)

theorem ignoresCase_isNamePart : IgnoresCase isNamePart :=
  ignoresCase_of_smallLetters (by decide)

theorem ignoresCase_isDecimalDigit : IgnoresCase isDecimalDigit :=
  ignoresCase_of_smallLetters (by decide)

theorem ignoresCase_isExponentMark : IgnoresCase isExponentMark :=
  ignoresCase_of_smallLetters (by decide)

theorem ignoresCase_isExponentSign : IgnoresCase isExponentSign :=
  ignoresCase_of_smallLetters (by decide)

theorem ignoresCase_isBlank : IgnoresCase isBlank :=
  ignoresCase_of_smallLetters (by decide)

theorem isCaseless_of_isQuote {quote : Char} (isOne : isQuote quote = true) :
    IsCaseless quote := by
  rcases (isQuote_iff quote).1 isOne with rfl | rfl
  · exact isCaseless_of_isAlpha rfl
  · exact isCaseless_of_isAlpha rfl

/-! ## Words and signs -/

theorem wordMatch?_asciiUpper (text : List Char) :
    wordMatch? (asciiUpper text) = wordMatch? text := by
  have run : letterRun (asciiUpper text) = asciiUpper (letterRun text) :=
    takeWhile_asciiUpper ignoresCase_isLetterForm text
  simp only [wordMatch?, wordAhead?, run, length_asciiUpper, drop_asciiUpper, endsWord_asciiUpper,
    map_asciiUpper ignoresCase_foldCase]

theorem isAlpha_of_mem_signs :
    ∀ sign ∈ signs, ∀ part ∈ sign.2.toList, part.isAlpha = false := by
  have table : (signs.all fun sign => sign.2.toList.all fun part => !part.isAlpha) = true := by
    decide
  intro sign listed part inSign
  have parts := List.all_eq_true.1 table sign listed
  simpa using List.all_eq_true.1 parts part inSign

theorem signMatch?_asciiUpper (text : List Char) :
    signMatch? (asciiUpper text) = signMatch? text := by
  have same : ∀ sign ∈ signs,
      sign.2.toList.isPrefixOf (asciiUpper text) = sign.2.toList.isPrefixOf text := by
    intro sign listed
    apply isPrefixOf_asciiUpper
    intro part inSign
    exact isCaseless_of_isAlpha (isAlpha_of_mem_signs sign listed part inSign)
  rw [signMatch?, signMatch?, List.find?_congr same]

/-! ## Literals -/

theorem quotedLength?_asciiUpper (text : List Char) :
    quotedLength? (asciiUpper text) = quotedLength? text := by
  cases text with
  | nil => rfl
  | cons first rest =>
      rw [asciiUpper_cons, quotedLength?, quotedLength?, ignoresCase_isQuote first]
      by_cases isOne : isQuote first = true
      · have caseless := isCaseless_of_isQuote isOne
        simp only [caseless.toUpper_eq, mem_asciiUpper_iff caseless,
          takeWhile_asciiUpper caseless.ignoresCase_bne, length_asciiUpper]
      · simp [isOne]

theorem bareNameLength?_asciiUpper (text : List Char) :
    bareNameLength? (asciiUpper text) = bareNameLength? text := by
  cases text with
  | nil => rfl
  | cons first rest =>
      simp only [asciiUpper_cons, bareNameLength?, ignoresCase_isNameStart first,
        takeWhile_asciiUpper ignoresCase_isNamePart, length_asciiUpper]

theorem nameLength?_asciiUpper (text : List Char) :
    nameLength? (asciiUpper text) = nameLength? text := by
  have bracket : IsCaseless '[' := isCaseless_of_isAlpha rfl
  have closing : IsCaseless ']' := isCaseless_of_isAlpha rfl
  by_cases opens : text.head? = some '['
  · rcases List.head?_eq_some_iff.1 opens with ⟨rest, rfl⟩
    rw [asciiUpper_cons, bracket.toUpper_eq, nameLength?, nameLength?, bareNameLength?_asciiUpper]
    simp only [drop_asciiUpper, head?_asciiUpper_eq_iff closing]
  · have stillNone : (asciiUpper text).head? ≠ some '[' :=
      mt (head?_asciiUpper_eq_iff bracket text).1 opens
    rw [nameLength?_of_head? opens, nameLength?_of_head? stillNone, bareNameLength?_asciiUpper]

theorem digitCount_asciiUpper (text : List Char) :
    digitCount (asciiUpper text) = digitCount text := by
  rw [digitCount, takeWhile_asciiUpper ignoresCase_isDecimalDigit, length_asciiUpper, digitCount]

theorem unsignedExponentLength_asciiUpper (text : List Char) :
    unsignedExponentLength (asciiUpper text) = unsignedExponentLength text := by
  cases text with
  | nil => rfl
  | cons mark rest =>
      simp only [asciiUpper_cons, unsignedExponentLength, ignoresCase_isExponentMark mark,
        digitCount_asciiUpper]

theorem signedExponentLength_asciiUpper (text : List Char) :
    signedExponentLength (asciiUpper text) = signedExponentLength text := by
  cases text with
  | nil => rfl
  | cons mark others =>
      cases others with
      | nil => rfl
      | cons sign rest =>
          simp only [asciiUpper_cons, signedExponentLength, ignoresCase_isExponentMark mark,
            ignoresCase_isExponentSign sign, digitCount_asciiUpper]

theorem pointedLength?_asciiUpper (text : List Char) :
    pointedLength? (asciiUpper text) = pointedLength? text := by
  have point : IsCaseless '.' := isCaseless_of_isAlpha rfl
  simp only [pointedLength?, digitCount_asciiUpper, drop_asciiUpper]
  cases text.drop (digitCount text) with
  | nil => rfl
  | cons first rest =>
      by_cases isPoint : first = '.'
      · rw [isPoint, asciiUpper_cons, point.toUpper_eq]
        simp only [digitCount_asciiUpper, drop_asciiUpper, signedExponentLength_asciiUpper,
          unsignedExponentLength_asciiUpper]
      · have stillNone : first.toUpper ≠ '.' := mt (point first).1 isPoint
        simp [isPoint, stillNone]

theorem scaledLength?_asciiUpper (text : List Char) :
    scaledLength? (asciiUpper text) = scaledLength? text := by
  simp only [scaledLength?, digitCount_asciiUpper, drop_asciiUpper,
    signedExponentLength_asciiUpper]

theorem integerLength?_asciiUpper (text : List Char) :
    integerLength? (asciiUpper text) = integerLength? text := by
  simp only [integerLength?, digitCount_asciiUpper, drop_asciiUpper,
    unsignedExponentLength_asciiUpper, endsWord_asciiUpper]

theorem literalMatch?_asciiUpper (text : List Char) :
    literalMatch? (asciiUpper text) = literalMatch? text := by
  simp only [literalMatch?, literalRules, List.findSome?_cons, List.findSome?_nil,
    Rule.matchLength, Pattern.matchLength, quotedLength?_asciiUpper, nameLength?_asciiUpper,
    pointedLength?_asciiUpper, scaledLength?_asciiUpper, integerLength?_asciiUpper]

/-- The rules find the same lexeme in a text in upper case. -/
theorem firstMatch?_asciiUpper (text : List Char) :
    firstMatch? (asciiUpper text) = firstMatch? text := by
  rw [firstMatch?_eq_or, firstMatch?_eq_or, wordMatch?_asciiUpper, signMatch?_asciiUpper,
    literalMatch?_asciiUpper]

/-! ## Comments -/

theorem blockEnd?_asciiUpper (text : List Char) :
    blockEnd? (asciiUpper text) = blockEnd? text := by
  induction text using blockEnd?.induct with
  | case1 rest => rfl
  | case2 first rest noEnd hypothesis =>
      have stillNone : ∀ later, first.toUpper = '*' → asciiUpper rest ≠ '/' :: later := by
        intro later star slash
        have atHead : (asciiUpper rest).head? = some '/' := by rw [slash]; rfl
        rw [head?_asciiUpper_eq_iff (isCaseless_of_isAlpha rfl)] at atHead
        rcases List.head?_eq_some_iff.1 atHead with ⟨others, rfl⟩
        exact noEnd others ((isCaseless_of_isAlpha rfl first).1 star) rfl
      rw [asciiUpper_cons, blockEnd?.eq_2 _ _ stillNone, blockEnd?.eq_2 _ _ noEnd, hypothesis]
  | case3 => rfl

theorem commentLength?_asciiUpper (text : List Char) :
    commentLength? (asciiUpper text) = commentLength? text := by
  have slash : IsCaseless '/' := isCaseless_of_isAlpha rfl
  have star : IsCaseless '*' := isCaseless_of_isAlpha rfl
  have lineBreak : IsCaseless '\n' := isCaseless_of_isAlpha rfl
  match text with
  | [] => rfl
  | [first] => simp [commentLength?]
  | first :: second :: rest =>
      simp only [asciiUpper_cons, commentLength?_cons_cons, slash first, slash second, star second,
        takeWhile_asciiUpper lineBreak.ignoresCase_bne, length_asciiUpper, blockEnd?_asciiUpper]

/-- A segment in upper case. -/
def Segment.upper : Segment → Segment
  | plain character => plain character.toUpper
  | quoted characters => quoted (asciiUpper characters)
  | comment characters => comment (asciiUpper characters)

theorem Segment.source_upper (segment : Segment) :
    segment.upper.source = asciiUpper segment.source := by
  cases segment <;> rfl

theorem straighten_toUpper (character : Char) :
    Segment.straighten character.toUpper = (Segment.straighten character).toUpper := by
  have tab : IsCaseless '\t' := isCaseless_of_isAlpha rfl
  have carriage : IsCaseless '\r' := isCaseless_of_isAlpha rfl
  have lineBreak : IsCaseless '\n' := isCaseless_of_isAlpha rfl
  simp only [Segment.straighten, tab character, carriage character, lineBreak character]
  split <;> rfl

theorem Segment.visible_upper (segment : Segment) :
    segment.upper.visible = asciiUpper segment.visible := by
  cases segment with
  | plain character => exact congrArg List.singleton (straighten_toUpper character)
  | quoted characters =>
      simp [upper, visible, asciiUpper, straighten_toUpper]
  | comment characters =>
      rw [upper, visible, visible, byteLength_asciiUpper, asciiUpper, List.map_replicate]
      rfl

theorem leadingSegment_asciiUpper (first : Char) (rest : List Char) :
    leadingSegment first.toUpper (asciiUpper rest) = (leadingSegment first rest).upper := by
  rw [leadingSegment, leadingSegment, ← asciiUpper_cons, quotedLength?_asciiUpper,
    commentLength?_asciiUpper]
  cases quotedLength? (first :: rest) with
  | some length => simp only [take_asciiUpper, Segment.upper]
  | none =>
      cases commentLength? (first :: rest) with
      | some length => simp only [take_asciiUpper, Segment.upper]
      | none => rfl

theorem segments_asciiUpper (text : List Char) :
    segments (asciiUpper text) = (segments text).map Segment.upper := by
  induction text using segments.induct with
  | case1 => rw [asciiUpper_nil, segments, List.map_nil]
  | case2 first rest segment hypothesis =>
      have leading := leadingSegment_asciiUpper first rest
      rw [asciiUpper_cons, segments, segments, List.map_cons, leading, Segment.source_upper,
        length_asciiUpper, ← asciiUpper_cons, drop_asciiUpper, hypothesis]

theorem normalize_asciiUpper (text : List Char) :
    normalize (asciiUpper text) = asciiUpper (normalize text) := by
  rw [normalize, segments_asciiUpper, List.flatMap_map]
  simp only [Segment.visible_upper, normalize, asciiUpper, List.map_flatMap]

end Lexis

/-! ## Lexemes -/

/-- A token whose text is in upper case. -/
def Token.upper (token : Token) : Token :=
  { token with text := String.ofList (asciiUpper token.text.toList) }

/-- A cause whose lexeme is in upper case. -/
def LexicalCause.upper : LexicalCause → LexicalCause
  | .noMatch => .noMatch
  | .unknownSymbol tag lexeme =>
      .unknownSymbol tag (String.ofList (asciiUpper lexeme.toList))

namespace Lexis

theorem kindOf?_asciiUpper (lexeme : List Char) :
    Keyword.kindOf? (asciiUpper lexeme) = Keyword.kindOf? lexeme := by
  rw [Keyword.kindOf?, asciiUpper_asciiUpper, Keyword.kindOf?]

/-- Without a bracket a lexeme has none to lose. -/
theorem unbracket_of_head? {lexeme : List Char} (noBracket : lexeme.head? ≠ some '[') :
    unbracket lexeme = lexeme := by
  rw [unbracket]
  rintro rest rfl
  exact noBracket rfl

theorem unbracket_asciiUpper (lexeme : List Char) :
    unbracket (asciiUpper lexeme) = asciiUpper (unbracket lexeme) := by
  have opening : IsCaseless '[' := isCaseless_of_isAlpha rfl
  have closing : IsCaseless ']' := isCaseless_of_isAlpha rfl
  by_cases opens : lexeme.head? = some '['
  · rcases List.head?_eq_some_iff.1 opens with ⟨rest, rfl⟩
    rw [asciiUpper_cons, opening.toUpper_eq, unbracket, unbracket]
    simp only [getLast?_asciiUpper_eq_iff closing]
    split
    · exact List.map_dropLast.symm
    · rfl
  · have stillNone : (asciiUpper lexeme).head? ≠ some '[' :=
      mt (head?_asciiUpper_eq_iff opening lexeme).1 opens
    rw [unbracket_of_head? opens, unbracket_of_head? stillNone]

/-- A lexeme in upper case means the same, its text in upper case. -/
theorem interpret?_asciiUpper (tag : Tag) (lexeme : List Char) :
    interpret? tag (asciiUpper lexeme) =
      (interpret? tag lexeme).map fun meaning => (meaning.1, asciiUpper meaning.2) := by
  cases literal : tag.isLiteral with
  | false =>
      rw [interpret?_of_isLiteral literal, interpret?_of_isLiteral literal, kindOf?_asciiUpper,
        Option.map_map]
      rfl
  | true =>
      cases tag with
      | string => simp [interpret?, asciiUpper, List.map_dropLast]
      | ident => simp [interpret?, unbracket_asciiUpper]
      | float => rfl
      | int => rfl
      | _ => cases literal

/-! ## Tokens -/

/-- A position whose text is in upper case. -/
def Position.upper (position : Position) : Position :=
  ⟨position.offset, asciiUpper position.rest⟩

theorem advance_upper (position : Position) (count : Nat) :
    position.upper.advance count = (position.advance count).upper := by
  simp only [Position.upper, Position.advance, take_asciiUpper, drop_asciiUpper,
    byteLength_asciiUpper]

theorem skipBlanks_upper (position : Position) :
    position.upper.skipBlanks = position.skipBlanks.upper := by
  have run : position.upper.rest.takeWhile isBlank =
      asciiUpper (position.rest.takeWhile isBlank) :=
    takeWhile_asciiUpper ignoresCase_isBlank position.rest
  rw [Position.skipBlanks, run, length_asciiUpper, advance_upper, Position.skipBlanks]

/-- A fault whose lexeme is in upper case. -/
def upperFault (fault : LexicalCause × Nat) : LexicalCause × Nat :=
  (fault.1.upper, fault.2)

theorem readToken_upper (position : Position) :
    readToken position.upper = (readToken position).map Position.upper Token.upper upperFault := by
  have found : firstMatch? position.upper.rest = firstMatch? position.rest :=
    firstMatch?_asciiUpper position.rest
  have lexeme (length : Nat) : position.upper.rest.take length =
      asciiUpper (position.rest.take length) :=
    take_asciiUpper length position.rest
  rw [readToken, readToken, found]
  cases firstMatch? position.rest with
  | none => rfl
  | some entry =>
      simp only [lexeme, interpret?_asciiUpper]
      cases interpret? entry.1 (position.rest.take entry.2) with
      | none =>
          simp [Step.map, upperFault, LexicalCause.upper, Position.upper]
      | some meaning =>
          rw [advance_upper]
          simp [Step.map, Token.upper, Position.upper]

theorem step_upper (position : Position) :
    step position.upper = (step position).map Position.upper Token.upper upperFault := by
  have ended : position.skipBlanks.upper.rest = [] ↔ position.skipBlanks.rest = [] :=
    List.map_eq_nil_iff
  simp only [step, skipBlanks_upper, ended]
  split
  · rfl
  · exact readToken_upper position.skipBlanks

/-- A query in upper case. -/
def upperQuery (query : String) : String :=
  String.ofList (asciiUpper query.toList)

theorem startOf_upperQuery (query : String) :
    startOf (upperQuery query) = (startOf query).upper := by
  rw [startOf, upperQuery, String.toList_ofList, normalize_asciiUpper]
  rfl

theorem scan_startOf_upperQuery (query : String) :
    scan (startOf (upperQuery query)) =
      ⟨(scan (startOf query)).tokens.map Token.upper,
        (scan (startOf query)).fault?.map upperFault⟩ := by
  rw [startOf_upperQuery, scan_of_step_map step_upper]

/-! ## Queries equal but for case -/

theorem sameButCase_of_upperText
    {text other : String}
    (same : String.ofList (asciiUpper text.toList) = String.ofList (asciiUpper other.toList)) :
    SameButCase text.toList other.toList :=
  String.ofList_injective same

end Lexis

/-- Tokens that differ in the case of their texts and in nothing else. -/
structure Token.SameButCase (token other : Token) : Prop where
  kind : token.kind = other.kind
  tag : token.tag = other.tag
  span : token.span = other.span
  text : Text.SameButCase token.text.toList other.text.toList

theorem Token.sameButCase_of_upper_eq
    {token other : Token} (same : token.upper = other.upper) :
    token.SameButCase other where
  kind := show token.upper.kind = other.upper.kind by rw [same]
  tag := show token.upper.tag = other.upper.tag by rw [same]
  span := show token.upper.span = other.upper.span by rw [same]
  text := Lexis.sameButCase_of_upperText (congrArg Token.text same)

/-- Causes of one kind whose lexemes differ in case and in nothing else. -/
inductive LexicalCause.SameButCase : LexicalCause → LexicalCause → Prop where
  | noMatch :
      SameButCase .noMatch .noMatch
  | unknownSymbol
      {tag : Tag} {lexeme other : String}
      (same : Text.SameButCase lexeme.toList other.toList) :
      SameButCase (.unknownSymbol tag lexeme) (.unknownSymbol tag other)

theorem LexicalCause.sameButCase_of_upper_eq
    {cause other : LexicalCause} (same : cause.upper = other.upper) :
    cause.SameButCase other := by
  cases cause with
  | noMatch =>
      cases other with
      | noMatch => exact .noMatch
      | unknownSymbol tag lexeme => cases same
  | unknownSymbol tag lexeme =>
      cases other with
      | noMatch => cases same
      | unknownSymbol otherTag otherLexeme =>
          injection same with sameTag sameLexeme
          subst sameTag
          exact .unknownSymbol (Lexis.sameButCase_of_upperText sameLexeme)

namespace Lexis

theorem forall₂_of_map_upper
    {tokens others : List Token} (same : tokens.map Token.upper = others.map Token.upper) :
    List.Forall₂ Token.SameButCase tokens others := by
  have alike : List.Forall₂ (· = ·) (tokens.map Token.upper) (others.map Token.upper) := by
    rw [List.forall₂_eq_eq_eq]
    exact same
  rw [List.forall₂_map_left_iff, List.forall₂_map_right_iff] at alike
  exact alike.imp fun token other => Token.sameButCase_of_upper_eq

/--
Two queries that differ in the case of letters alone have the same tokens but for the case of
their texts, or fail for the same reason at the same offset.
-/
theorem tokenize_of_sameButCase
    {query other : String} (same : SameButCase query.toList other.toList) :
    (∃ tokens others,
      tokenize query = .ok tokens ∧ tokenize other = .ok others ∧
        List.Forall₂ Token.SameButCase tokens others) ∨
      ∃ cause otherCause offset,
        tokenize query = .error (errorOf query cause offset) ∧
          tokenize other = .error (errorOf other otherCause offset) ∧
            cause.SameButCase otherCause := by
  have alike : scan (startOf (upperQuery query)) = scan (startOf (upperQuery other)) := by
    rw [upperQuery, same, upperQuery]
  rw [scan_startOf_upperQuery, scan_startOf_upperQuery] at alike
  have tokensAlike := congrArg Scan.tokens alike
  have faultsAlike := congrArg Scan.fault? alike
  simp only at tokensAlike faultsAlike
  rw [tokenize, tokenize]
  cases fault : (scan (startOf query)).fault? with
  | none =>
      rw [fault, Option.map_none, eq_comm, Option.map_eq_none_iff] at faultsAlike
      left
      rw [faultsAlike]
      exact ⟨_, _, rfl, rfl, forall₂_of_map_upper tokensAlike⟩
  | some found =>
      rw [fault, Option.map_some, eq_comm, Option.map_eq_some_iff] at faultsAlike
      rcases faultsAlike with ⟨otherFound, otherFault, sameFault⟩
      right
      rw [otherFault]
      rcases Prod.mk.inj sameFault with ⟨sameCause, sameOffset⟩
      refine ⟨found.1, otherFound.1, found.2, rfl, ?_,
        LexicalCause.sameButCase_of_upper_eq sameCause.symm⟩
      rw [← sameOffset]

/-- A reserved word, a bracketed name, a number and a string, in one case. -/
def smallTokens : List Token :=
  [⟨.since, .temporal, "since", ⟨0, 5⟩⟩, ⟨.literal, .ident, "day", ⟨6, 11⟩⟩,
    ⟨.literal, .int, "1e3", ⟨12, 15⟩⟩, ⟨.literal, .string, "é//", ⟨16, 22⟩⟩]

/-- The same in the other case. -/
def capitalTokens : List Token :=
  [⟨.since, .temporal, "SINCE", ⟨0, 5⟩⟩, ⟨.literal, .ident, "DaY", ⟨6, 11⟩⟩,
    ⟨.literal, .int, "1E3", ⟨12, 15⟩⟩, ⟨.literal, .string, "é//", ⟨16, 22⟩⟩]

theorem smallTokens_sameButCase :
    tokenize "since [day] 1e3 'é//' // ſ" = .ok smallTokens ∧
      tokenize "SINCE [DaY] 1E3 'é//' // ſ" = .ok capitalTokens ∧
        List.Forall₂ Token.SameButCase smallTokens capitalTokens ∧
          ∃ cause otherCause offset,
            tokenize "1 ſINCE" = .error (errorOf "1 ſINCE" cause offset) ∧
              tokenize "1 ſince" = .error (errorOf "1 ſince" otherCause offset) ∧
                cause.SameButCase otherCause := by
  have small : tokenize "since [day] 1e3 'é//' // ſ" = .ok smallTokens := by
    decide +kernel
  have capital : tokenize "SINCE [DaY] 1E3 'é//' // ſ" = .ok capitalTokens := by
    decide +kernel
  refine ⟨small, capital, ?_, ?_⟩
  · have same : SameButCase "since [day] 1e3 'é//' // ſ".toList
        "SINCE [DaY] 1E3 'é//' // ſ".toList := by
      decide
    rcases tokenize_of_sameButCase same with
      ⟨tokens, others, accepted, otherAccepted, alike⟩ | ⟨_, _, _, refused, -, -⟩
    · cases small.symm.trans accepted
      cases capital.symm.trans otherAccepted
      exact alike
    · cases small.symm.trans refused
  · have unknown : (tokenize "1 ſINCE").isOk = false := by
      decide +kernel
    have same : SameButCase "1 ſINCE".toList "1 ſince".toList := by
      decide
    rcases tokenize_of_sameButCase same with ⟨tokens, others, accepted, -, -⟩ | refused
    · rw [accepted] at unknown
      cases unknown
    · exact refused

end Lexis

end FindQuery
