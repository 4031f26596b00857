import FindQuery.Proofs.Grammar.Statement
import FindQuery.Proofs.Lexis.Partition
import FindQuery.Proofs.Number.Numeral
import FindQuery.Value

/-!
# Numbers of conditions

The text of a number in a condition is a numeral of the language, with a sign before it where
the condition has one.  It can therefore be converted exactly when its decimal digits are ASCII
digits; a query with the digits of another script is accepted, and its numbers are not.
-/

namespace FindQuery

open FindQuery.Number
open FindQuery.Text

namespace Lexis

/-! ## Tokens of numbers and signs -/

/-- Only a literal has the tag of a number, and its lexeme is a numeral. -/
theorem IsLexeme.isNumeral
    {tag : Tag} {lexeme : List Char} (isLexeme : IsLexeme tag lexeme)
    (numeric : tag.isNumeric = true) :
    IsNumeral lexeme := by
  have literal : tag.isLiteral = true := by
    cases tag <;> first | rfl | cases numeric
  cases isLexeme with
  | word forms tagged =>
      rw [isLiteral_of_wordTag? tagged] at literal
      cases literal
  | sign listed =>
      rw [isLiteral_of_mem_signs _ listed] at literal
      cases literal
  | quoted => cases numeric
  | bracketed => cases numeric
  | bare => cases numeric
  | decimal form => exact isNumeral_of_decimal form
  | integer form => exact .inr (.inr form)

theorem isNumeral_of_tokenize
    {query : String} {tokens : List Token} (tokenized : tokenize query = .ok tokens)
    {token : Token} (member : token ∈ tokens) (numeric : token.tag.isNumeric = true) :
    IsNumeral token.text.toList := by
  rcases (exists_cuts_of_tokenize tokenized).exists_pieces token member with
    ⟨-, carried, -, lexeme, -, carries, -⟩
  have whole : token.text.toList = lexeme := by
    have meaning := carries.meaning
    cases tag : token.tag <;> simp_all [interpret?, Tag.isNumeric]
  rw [whole]
  exact carries.isLexeme.isNumeral numeric

/-- A character that is no letter is looked up as it is written. -/
theorem eq_singleton_of_asciiUpper
    {lexeme : List Char} {sign : Char} (spelled : asciiUpper lexeme = [sign])
    (low : sign.toNat < 65) :
    lexeme = [sign] := by
  rw [asciiUpper, List.map_eq_singleton_iff] at spelled
  rcases spelled with ⟨character, rfl, same⟩
  have points := congrArg Char.toNat same
  rw [toNat_toUpper] at points
  split at points
  · omega
  · rw [Char.toNat_inj.1 points]

theorem isSign_of_kindOf?
    {lexeme : List Char} {kind : Kind} (found : Keyword.kindOf? lexeme = some kind)
    (signed : kind = .minus ∨ kind = .plus) :
    IsSign lexeme := by
  have table : ∀ entry ∈ Keyword.spellings, entry.2 = .minus ∨ entry.2 = .plus →
      entry.1.toList = ['-'] ∨ entry.1.toList = ['+'] := by
    decide
  rcases Option.map_eq_some_iff.1 found with ⟨entry, listed, rfl⟩
  have spelled := List.find?_some listed
  rw [beq_iff_eq] at spelled
  rcases table entry (List.mem_of_find?_eq_some listed) signed with minus | plus
  · exact .inr (.inl (eq_singleton_of_asciiUpper (spelled.symm.trans minus) (by decide)))
  · exact .inr (.inr (eq_singleton_of_asciiUpper (spelled.symm.trans plus) (by decide)))

theorem isSign_of_tokenize
    {query : String} {tokens : List Token} (tokenized : tokenize query = .ok tokens)
    {token : Token} (member : token ∈ tokens)
    (signed : token.kind = .minus ∨ token.kind = .plus) :
    IsSign token.text.toList := by
  rcases (exists_cuts_of_tokenize tokenized).exists_pieces token member with
    ⟨-, carried, -, lexeme, -, carries, -⟩
  have meaning := carries.meaning
  by_cases literal : token.tag.isLiteral = true
  · have word : token.kind = .literal := by
      cases tag : token.tag <;> simp_all [interpret?, Tag.isLiteral]
    simp [word] at signed
  · rw [interpret?_of_isLiteral (eq_false_of_ne_true literal)] at meaning
    rcases Option.map_eq_some_iff.1 meaning with ⟨kind, found, same⟩
    cases same
    exact isSign_of_kindOf? found signed

end Lexis

namespace Grammar

/-! ## Values of conditions -/

theorem isNumeric_of_ofTag?
    {tag : Tag} {kind : ValueKind} (valued : ValueKind.ofTag? tag = some kind)
    (numeric : kind = .int ∨ kind = .float) :
    tag.isNumeric = true := by
  cases tag <;> cases valued <;> first | rfl | simp at numeric

theorem SpellsPredicate.exists_value
    {used : List Token} {predicate : Predicate} (spelled : SpellsPredicate used predicate)
    {value : Value} (side : value = predicate.left ∨ value = predicate.right) :
    ∃ phrase, phrase ⊆ used ∧ SpellsValue phrase value := by
  cases spelled with
  | equal leftSpelled sign isEqual rightSpelled =>
      rcases side with rfl | rfl
      · exact ⟨_, List.subset_append_left _ _, leftSpelled⟩
      · exact ⟨_, fun _ member => by simp [member], rightSpelled⟩

/-- The tokens of a value of a condition are among those that the condition was read from. -/
theorem exists_value_of_readMatching
    {tokens rest : List Token} {condition : Condition}
    (read : readMatching tokens = .ok (some condition) rest)
    {predicate : Predicate} (member : predicate ∈ condition.predicates)
    {value : Value} (side : value = predicate.left ∨ value = predicate.right) :
    ∃ phrase, phrase ⊆ tokens ∧ SpellsValue phrase value := by
  rcases spellsMatching_of_readMatching read with ⟨used, rfl, matched⟩
  cases matched with
  | present word isMatching spelled =>
      rcases List.mem_flatten.1 member with ⟨group, inGroups, inGroup⟩
      rcases spelled.exists_of_mem inGroups with ⟨groupTokens, groupWithin, joined⟩
      rcases joined.exists_of_mem inGroup with ⟨predicateTokens, predicateWithin, first⟩
      rcases first.exists_value side with ⟨phrase, within, valued⟩
      refine ⟨phrase, fun token inPhrase => ?_, valued⟩
      have inCondition := groupWithin (predicateWithin (within inPhrase))
      simp [inCondition]

end Grammar

namespace Query

open FindQuery.Grammar
open FindQuery.Time

theorem exists_value_of_parse
    {source : String} {now : Instant} {query : Query} {condition : Condition}
    (parsed : parse source now = .ok query) (conditional : query.condition = some condition)
    {predicate : Predicate} (member : predicate ∈ condition.predicates)
    {value : Value} (side : value = predicate.left ∨ value = predicate.right) :
    ∃ tokens phrase,
      Lexis.tokenize source = .ok tokens ∧ phrase ⊆ tokens ∧ SpellsValue phrase value := by
  rw [parse] at parsed
  split at parsed
  · rename_i tokens tokenized
    rcases (ofTokens_eq_ok_iff _ _ _ _).1 parsed with ⟨rest, read⟩
    obtain ⟨word, later, afterSelection, afterCondition, all, fields, found, range, split, -,
      selected, matched, -, -, rfl⟩ := (readStatement_eq_ok_iff _ _ _ _ _).1 read
    cases conditional
    rcases spellsSelection_of_readSelection selected with ⟨selection, rfl, -⟩
    rcases exists_value_of_readMatching matched member side with ⟨phrase, within, spelled⟩
    refine ⟨tokens, phrase, tokenized, fun token inPhrase => ?_, spelled⟩
    have inStatement : token ∈ statementTokens tokens := by
      rw [split]
      simp [within inPhrase]
    exact (List.takeWhile_prefix _).subset inStatement
  · cases parsed

/--
A number of a condition is converted exactly when its decimal digits are ASCII digits, and
then its text is a decimal numeral.
-/
theorem toBinary64?_isSome_iff_hasAsciiDigits
    {source : String} {now : Instant} {query : Query} {condition : Condition}
    (parsed : parse source now = .ok query) (conditional : query.condition = some condition)
    {predicate : Predicate} (member : predicate ∈ condition.predicates)
    {value : Value} (side : value = predicate.left ∨ value = predicate.right)
    (numeric : value.kind = .int ∨ value.kind = .float) :
    (value.toBinary64?.isSome = true ↔ HasAsciiDigits value.raw.toList) ∧
      ∀ found, Numeral.ofText? value.raw.toList = some found →
        ∃ coefficient exponent, found.magnitude = .decimal coefficient exponent := by
  rcases exists_value_of_parse parsed conditional member side with
    ⟨tokens, phrase, tokenized, within, spelled⟩
  have converted : value.toBinary64?.isSome = (Numeral.ofText? value.raw.toList).isSome := by
    rcases numeric with int | float
    · simp [Value.toBinary64?, int, Binary64.ofText?]
    · simp [Value.toBinary64?, float, Binary64.ofText?]
  rw [converted]
  cases spelled with
  | literal token kind valued =>
      have isNumeric := isNumeric_of_ofTag? valued numeric
      have numeral := Lexis.isNumeral_of_tokenize tokenized (within (by simp)) isNumeric
      exact ofText?_isSome_iff_hasAsciiDigits (.inl rfl) numeral
  | signed sign number kind isSign isNumeric valued =>
      have numeral := Lexis.isNumeral_of_tokenize tokenized (within (by simp)) isNumeric
      have signed := Lexis.isSign_of_tokenize tokenized (within (by simp)) isSign
      rw [String.toList_append]
      exact ofText?_isSome_iff_hasAsciiDigits signed numeral

/-- What a query for a field under one condition up to the epoch asks at the epoch. -/
def fieldUnder (predicate : Predicate) : Query where
  fields := [⟨"a", "a"⟩]
  all := false
  condition := some ⟨[[predicate]]⟩
  range := ⟨0, 0⟩
  remainder := []

theorem negativeNumber_converted :
    parse "find a matching b = -.5e-3 since forever" (.ofEpoch 0 0 0) =
        .ok (fieldUnder ⟨⟨.ident, "b"⟩, .equal, ⟨.float, "-.5e-3"⟩⟩) ∧
      HasAsciiDigits "-.5e-3".toList ∧
        (Value.toBinary64? ⟨.float, "-.5e-3"⟩).isSome = true := by
  have parsed : parse "find a matching b = -.5e-3 since forever" (.ofEpoch 0 0 0) =
      .ok (fieldUnder ⟨⟨.ident, "b"⟩, .equal, ⟨.float, "-.5e-3"⟩⟩) := by
    decide +kernel
  have ascii : HasAsciiDigits "-.5e-3".toList := by
    decide +kernel
  have converted := toBinary64?_isSome_iff_hasAsciiDigits parsed rfl
    (List.mem_singleton.2 rfl) (.inr rfl) (.inr rfl)
  exact ⟨parsed, ascii, converted.1.2 ascii⟩

/-- An Arabic-Indic digit is accepted as an integer, which cannot be converted. -/
theorem foreignDigit_not_converted :
    parse "find a matching b = ٣ since forever" (.ofEpoch 0 0 0) =
        .ok (fieldUnder ⟨⟨.ident, "b"⟩, .equal, ⟨.int, "٣"⟩⟩) ∧
      Value.toBinary64? ⟨.int, "٣"⟩ = none ∧
        ¬ ∀ source now query condition,
          parse source now = .ok query → query.condition = some condition →
            ∀ predicate ∈ condition.predicates, ∀ value,
              value = predicate.left ∨ value = predicate.right →
                value.kind = .int ∨ value.kind = .float →
                  value.toBinary64?.isSome = true := by
  have parsed : parse "find a matching b = ٣ since forever" (.ofEpoch 0 0 0) =
      .ok (fieldUnder ⟨⟨.ident, "b"⟩, .equal, ⟨.int, "٣"⟩⟩) := by
    decide +kernel
  have lost : Value.toBinary64? ⟨.int, "٣"⟩ = none := by
    decide +kernel
  refine ⟨parsed, lost, ?_⟩
  intro converts
  have found := converts _ _ _ _ parsed rfl _ (List.mem_singleton.2 rfl) _ (.inr rfl) (.inl rfl)
  rw [lost] at found
  cases found

end Query

end FindQuery
