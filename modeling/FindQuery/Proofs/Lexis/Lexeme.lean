import FindQuery.Proofs.Lexis.Name
import FindQuery.Proofs.Lexis.Scan

/-!
# Lexemes

What the first matching rule finds at the start of a text is a lexeme of one of seven
classes, which its tag tells apart.  Only quoted texts hold blanks or quotes, and the
only other lexeme with a slash in it is the slash itself, so blanks, comments and quoted
texts come between the lexemes of all other classes.
-/

namespace FindQuery.Lexis

open FindQuery.Text

/-- The classes of lexemes with their tags. -/
inductive IsLexeme : Tag → List Char → Prop where
  | word
      {tag : Tag} {letters : List Char}
      (forms : ∀ letter ∈ letters, isLetterForm letter = true)
      (tagged : wordTag? (letters.map foldCase) = some tag) :
      IsLexeme tag letters
  | sign
      {sign : Tag × String}
      (listed : sign ∈ signs) :
      IsLexeme sign.1 sign.2.toList
  | quoted
      {quote : Char} {body : List Char}
      (isOne : isQuote quote = true)
      (fresh : quote ∉ body) :
      IsLexeme .string (quote :: (body ++ [quote]))
  | bracketed
      {name : List Char}
      (isName : IsName name) :
      IsLexeme .ident ('[' :: (name ++ [']']))
  | bare
      {name : List Char}
      (isName : IsName name) :
      IsLexeme .ident name
  | decimal
      {numeral : List Char}
      (form : IsPointed numeral ∨ IsScaled numeral) :
      IsLexeme .float numeral
  | integer
      {numeral : List Char}
      (form : IsInteger numeral) :
      IsLexeme .int numeral

/-! ## What is found -/

theorem exists_lexeme_of_literalMatch?
    {text : List Char} {tag : Tag} {length : Nat}
    (found : literalMatch? text = some (tag, length)) :
    ∃ lexeme rest, text = lexeme ++ rest ∧ length = lexeme.length ∧ IsLexeme tag lexeme := by
  rcases exists_rule_of_literalMatch? found with ⟨pattern, member, measured⟩
  simp only [literalRules, List.mem_cons, List.not_mem_nil, or_false, Rule.mk.injEq] at member
  rcases member with ⟨rfl, rfl⟩ | ⟨rfl, rfl⟩ | ⟨rfl, rfl⟩ | ⟨rfl, rfl⟩
  · rcases (quotedLength?_eq_some_iff _ _).1 measured with
      ⟨quote, body, later, isOne, fresh, rfl, rfl⟩
    exact ⟨quote :: (body ++ [quote]), later, by simp, by simp, .quoted isOne fresh⟩
  · rcases (nameLength?_eq_some_iff _ _).1 measured with
      ⟨name, later, isName, rfl, rfl⟩ | ⟨name, later, isName, -, rfl, rfl⟩
    · exact ⟨'[' :: (name ++ [']']), later, by simp, by simp, .bracketed isName⟩
    · exact ⟨name, later, rfl, rfl, .bare isName⟩
  · rcases exists_decimal measured with ⟨lexeme, later, whole, size, form⟩
    exact ⟨lexeme, later, whole, size, .decimal form⟩
  · rcases exists_integer measured with ⟨lexeme, later, whole, size, form⟩
    exact ⟨lexeme, later, whole, size, .integer form⟩

/-- The first rule that matches finds a lexeme at the start of the text. -/
theorem exists_lexeme_of_firstMatch?
    {text : List Char} {tag : Tag} {length : Nat}
    (found : firstMatch? text = some (tag, length)) :
    ∃ lexeme rest, text = lexeme ++ rest ∧ length = lexeme.length ∧ IsLexeme tag lexeme := by
  rw [firstMatch?_eq_or, Option.or_eq_some_iff] at found
  rcases found with word | ⟨-, other⟩
  · rcases (wordMatch?_eq_some_iff _ _ _).1 word with ⟨tagged, -, rfl⟩
    rcases exists_run isLetterForm text with ⟨run, rest, rfl, taken, forms, -⟩
    rw [letterRun, taken] at tagged ⊢
    exact ⟨run, rest, rfl, rfl, .word forms tagged⟩
  · rw [Option.or_eq_some_iff] at other
    rcases other with sign | ⟨-, literal⟩
    · rcases exists_sign_of_signMatch? sign with ⟨spelled, listed, rest, rfl, rfl, rfl⟩
      exact ⟨spelled.2.toList, rest, rfl, rfl, .sign listed⟩
    · exact exists_lexeme_of_literalMatch? literal

/-- What a step reads after the blanks is a lexeme with a meaning. -/
theorem exists_lexeme_of_step
    {position after : Position} {token : Token}
    (read : step position = .token token after) :
    ∃ lexeme rest,
      position.skipBlanks.rest = lexeme ++ rest ∧ IsLexeme token.tag lexeme ∧
        firstMatch? (lexeme ++ rest) = some (token.tag, lexeme.length) ∧
          interpret? token.tag lexeme = some (token.kind, token.text.toList) ∧
            token.span = ⟨position.skipBlanks.offset, after.offset⟩ ∧
              after = ⟨position.skipBlanks.offset + byteLength lexeme, rest⟩ := by
  rcases (step_eq_token_iff _ _ _).1 read with
    ⟨length, text, -, found, meaning, written, rfl, spanned⟩
  rcases exists_lexeme_of_firstMatch? found with ⟨lexeme, rest, whole, rfl, isLexeme⟩
  rw [whole] at found
  rw [whole, List.take_left] at meaning
  refine ⟨lexeme, rest, whole, isLexeme, found, ?_, spanned, ?_⟩
  · rw [meaning, written, String.toList_ofList]
  · rw [Position.advance, whole, List.take_left, List.drop_left]

/-! ## What lexemes mean -/

/-- A lexeme of a word or a sign means what its spelling means. -/
theorem interpret?_of_isLiteral
    {tag : Tag} (word : tag.isLiteral = false) (lexeme : List Char) :
    interpret? tag lexeme = (Keyword.kindOf? lexeme).map fun kind => (kind, lexeme) := by
  cases tag <;> first | rfl | cases word

theorem isLiteral_of_wordTag?
    {word : List Char} {tag : Tag} (tagged : wordTag? word = some tag) :
    tag.isLiteral = false := by
  have table : ∀ entry ∈ wordTable, entry.1.isLiteral = false := by
    decide
  rcases Option.map_eq_some_iff.1 tagged with ⟨entry, found, rfl⟩
  exact table entry (List.mem_of_find?_eq_some found)

theorem isLiteral_of_mem_signs : ∀ sign ∈ signs, sign.1.isLiteral = false := by
  decide

theorem interpret?_of_isName {name : List Char} (isName : IsName name) :
    interpret? .ident name = some (.literal, name) := by
  rcases isName with ⟨first, parts, rfl, starts, -⟩
  rw [interpret?, unbracket]
  rintro rest same
  cases same
  cases starts

/-- The text of a lexeme: without quotes a string, without brackets a name, else all of it. -/
inductive Strips : Tag → List Char → List Char → Prop where
  | quotes
      {quote : Char} {body : List Char}
      (isOne : isQuote quote = true) :
      Strips .string (quote :: (body ++ [quote])) body
  | brackets
      {name : List Char} :
      Strips .ident ('[' :: (name ++ [']'])) name
  | nothing
      {tag : Tag} {lexeme : List Char}
      (noString : tag ≠ .string)
      (noBracket : tag = .ident → lexeme.head? ≠ some '[') :
      Strips tag lexeme lexeme

theorem strips_of_isLiteral
    {tag : Tag} (word : tag.isLiteral = false) {lexeme text : List Char} {kind : Kind}
    (meaning : interpret? tag lexeme = some (kind, text)) :
    Strips tag lexeme text := by
  rw [interpret?_of_isLiteral word] at meaning
  rcases Option.map_eq_some_iff.1 meaning with ⟨known, -, equal⟩
  cases equal
  apply Strips.nothing
  · rintro rfl
    cases word
  · rintro rfl
    cases word

/-- A lexeme that means something means its text. -/
theorem IsLexeme.strips
    {tag : Tag} {lexeme text : List Char} {kind : Kind} (isLexeme : IsLexeme tag lexeme)
    (meaning : interpret? tag lexeme = some (kind, text)) :
    Strips tag lexeme text := by
  cases isLexeme with
  | word forms tagged => exact strips_of_isLiteral (isLiteral_of_wordTag? tagged) meaning
  | sign listed => exact strips_of_isLiteral (isLiteral_of_mem_signs _ listed) meaning
  | quoted isOne fresh =>
      simp only [interpret?, List.drop_succ_cons, List.drop_zero, List.dropLast_concat,
        Option.some.injEq, Prod.mk.injEq] at meaning
      rcases meaning with ⟨-, rfl⟩
      exact .quotes isOne
  | bracketed isName =>
      simp only [interpret?, unbracket, List.getLast?_concat, if_true, List.dropLast_concat,
        Option.some.injEq, Prod.mk.injEq] at meaning
      rcases meaning with ⟨-, rfl⟩
      exact .brackets
  | bare isName =>
      rw [interpret?_of_isName isName, Option.some.injEq, Prod.mk.injEq] at meaning
      rcases meaning with ⟨-, rfl⟩
      rcases isName with ⟨first, parts, rfl, starts, -⟩
      apply Strips.nothing
      · exact Tag.noConfusion
      · rintro - same
        cases same
        cases starts
  | decimal form =>
      cases meaning
      exact .nothing Tag.noConfusion Tag.noConfusion
  | integer form =>
      cases meaning
      exact .nothing Tag.noConfusion Tag.noConfusion

/-- A string is a text in quotes. -/
theorem IsLexeme.exists_quotes
    {tag : Tag} {lexeme : List Char} (isLexeme : IsLexeme tag lexeme) (string : tag = .string) :
    ∃ quote body,
      isQuote quote = true ∧ quote ∉ body ∧ lexeme = quote :: (body ++ [quote]) := by
  cases isLexeme with
  | word forms tagged =>
      subst string
      cases isLiteral_of_wordTag? tagged
  | sign listed =>
      have word := isLiteral_of_mem_signs _ listed
      rw [string] at word
      cases word
  | @quoted quote body isOne fresh => exact ⟨quote, body, isOne, fresh, rfl⟩
  | bracketed isName => cases string
  | bare isName => cases string
  | decimal form => cases string
  | integer form => cases string

/-! ## What lexemes are made of -/

/-- What the signs are made of: no letters, no blanks, and slashes only in the slash. -/
theorem parts_of_mem_signs :
    ∀ sign ∈ signs, ∀ part ∈ sign.2.toList,
      isLetterForm part = false ∧ isBlank part = false ∧
        Segment.straighten part = part ∧
          (sign.2.toList = ['/'] ∨ opensSegment part = false) := by
  have table : ∀ sign ∈ signs, (sign.2.toList.all fun part =>
      !isLetterForm part && !isBlank part && Segment.straighten part == part &&
        (sign.2.toList == ['/'] || !opensSegment part)) = true := by
    decide
  intro sign member part inSign
  have excluded := List.all_eq_true.1 (table sign member) part inSign
  simpa [and_assoc] using excluded

/-- The tag of the sign that is a slash. -/
theorem tag_of_slash_mem_signs :
    ∀ sign ∈ signs, sign.2.toList = ['/'] → sign.1 = .divide := by
  decide

/-- The characters of a lexeme are no blanks and, but for a slash alone, open no segment. -/
def IsSolid (tag : Tag) (lexeme : List Char) : Prop :=
  (∀ part ∈ lexeme, isBlank part = false) ∧
    ((tag = .divide ∧ lexeme = ['/']) ∨ ∀ part ∈ lexeme, opensSegment part = false)

theorem IsSolid.isQuote_eq_false
    {tag : Tag} {lexeme : List Char} (solid : IsSolid tag lexeme) :
    ∀ part ∈ lexeme, isQuote part = false := by
  intro part member
  rcases solid.2 with ⟨-, rfl⟩ | plain
  · rw [List.mem_singleton.1 member]
    rfl
  · exact (Bool.or_eq_false_iff.1 (plain part member)).1

/-- A class without blanks, quotes and slashes makes up solid lexemes. -/
theorem isSolid_of_class
    {p : Char → Bool} (noBlank : blanks.any p = false)
    (noOpening : p '\'' = false ∧ p '"' = false ∧ p '/' = false)
    {tag : Tag} {lexeme : List Char} (inside : ∀ part ∈ lexeme, p part = true) :
    IsSolid tag lexeme := by
  refine ⟨?_, .inr ?_⟩
  · intro part member
    exact isBlank_eq_false_of_class noBlank (inside part member)
  · intro part member
    exact opensSegment_eq_false noOpening (inside part member)

theorem isSolid_of_isNumeral
    {tag : Tag} {lexeme : List Char} (numeral : IsNumeral lexeme) :
    IsSolid tag lexeme :=
  isSolid_of_class (by decide) (by decide) numeral.isNumeralPart

theorem isSolid_of_isName
    {tag : Tag} {name : List Char} (isName : IsName name) :
    IsSolid tag name :=
  isSolid_of_class (by decide) (by decide) isName.isNamePart

/-- The characters of a name in brackets. -/
def isBracketedPart (character : Char) : Bool :=
  isNamePart character || character == '[' || character == ']'

/-- All lexemes are solid but those of strings. -/
theorem IsLexeme.isSolid
    {tag : Tag} {lexeme : List Char} (isLexeme : IsLexeme tag lexeme)
    (noString : tag ≠ .string) :
    IsSolid tag lexeme := by
  cases isLexeme with
  | word forms tagged => exact isSolid_of_class (by decide) (by decide) forms
  | @sign sign listed =>
      have parts := parts_of_mem_signs sign listed
      refine ⟨fun part member => (parts part member).2.1, ?_⟩
      by_cases slash : sign.2.toList = ['/']
      · exact .inl ⟨tag_of_slash_mem_signs sign listed slash, slash⟩
      · exact .inr fun part member => (parts part member).2.2.2.resolve_left slash
  | quoted isOne fresh => exact absurd rfl noString
  | bracketed isName =>
      apply isSolid_of_class (p := isBracketedPart) (by decide) (by decide)
      intro part member
      simp only [List.mem_cons, List.mem_append, List.not_mem_nil, or_false] at member
      rcases member with rfl | inName | rfl
      · rfl
      · simp [isBracketedPart, isName.isNamePart part inName]
      · rfl
  | bare isName => exact isSolid_of_isName isName
  | decimal form => exact isSolid_of_isNumeral (isNumeral_of_decimal form)
  | integer form => exact isSolid_of_isNumeral (.inr (.inr form))

end FindQuery.Lexis
