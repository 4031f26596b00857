import FindQuery.Proofs.Lexis.Lexeme

/-!
# The first match and the longest

The first rule that matches decides what is read, however far later rules would go.  The first
character of a text leaves few rules to vie for it, and the order of the table puts the one that
goes farthest first: a sign before its own beginnings, a decimal before an integer.  Words come
before names, which go on where a word ends; so a word may be cut out of a longer name, at a
point, an at sign or a dollar sign and nowhere else.
-/

namespace FindQuery.Lexis

open FindQuery.Text

/-- The number of bytes of the lexeme that a rule finds at the start of a text. -/
def Rule.matchedBytes (rule : Rule) (text : List Char) : Option Nat :=
  (rule.matchLength text).map fun length => byteLength (text.take length)

/-- The first rule of the table that matches at the start of a text. -/
def firstRule? (text : List Char) : Option Rule :=
  rules.find? fun rule => (rule.matchLength text).isSome

/-- The scanner reads what the first rule finds. -/
theorem firstMatch?_eq_bind (text : List Char) :
    firstMatch? text =
      (firstRule? text).bind fun rule =>
        (rule.matchLength text).map fun length => (rule.tag, length) := by
  rw [firstMatch?, firstRule?]
  generalize rules = table
  induction table with
  | nil => rfl
  | cons rule later hypothesis =>
      rw [List.findSome?_cons, List.find?_cons]
      cases matched : rule.matchLength text with
      | none => exact hypothesis
      | some length => exact (congrArg (Option.map _) matched).symm

/-! ## Families -/

/-- Kinds of lexemes that are told apart by their first character. -/
inductive Family where
  /-- Words and names. -/
  | verbal
  | sign
  | quoted
  | numeral
  deriving DecidableEq, Repr

/-- The family of the lexemes of a pattern. -/
def Pattern.family : Pattern → Family
  | word _ => .verbal
  | sign _ => .sign
  | quoted => .quoted
  | name => .verbal
  | decimal => .numeral
  | integer => .numeral

/-- The family of the lexemes that start with a character. -/
def Family.ofStart? (character : Char) : Option Family :=
  if isSignStart character then
    some .sign
  else if isQuote character then
    some .quoted
  else if isDecimalDigit character || character == '.' then
    some .numeral
  else if isLetterForm character || character == '_' || character == '[' then
    some .verbal
  else
    none

theorem isLetterForm_eq_false_of_isSignStart
    {character : Char} (starts : isSignStart character = true) :
    isLetterForm character = false := by
  rcases List.any_eq_true.1 starts with ⟨sign, member, atHead⟩
  have inSign := List.mem_of_head? (beq_iff_eq.1 atHead)
  exact (parts_of_mem_signs sign member character inSign).1

namespace Family

theorem ofStart?_of_isSignStart {character : Char} (starts : isSignStart character = true) :
    ofStart? character = some .sign :=
  if_pos starts

theorem ofStart?_of_isQuote {character : Char} (isOne : isQuote character = true) :
    ofStart? character = some .quoted := by
  rcases (isQuote_iff character).1 isOne with rfl | rfl <;> decide

theorem ofStart?_of_numeral
    {character : Char} (starts : isDecimalDigit character = true ∨ character = '.') :
    ofStart? character = some .numeral := by
  rcases starts with digit | rfl
  · have noSign : isSignStart character = false := by
      rw [← Bool.not_eq_true]
      intro sign
      exact absurd digit (ne_true_of_eq_false (literalStart_of_isSignStart sign).2.1)
    have noQuote : isQuote character = false := by
      rw [← Bool.not_eq_true, isQuote_iff]
      rintro (rfl | rfl) <;> revert digit <;> decide
    simp [ofStart?, noSign, noQuote, digit]
  · decide

theorem ofStart?_of_isLetterForm {character : Char} (letter : isLetterForm character = true) :
    ofStart? character = some .verbal := by
  have noSign : isSignStart character = false := by
    rw [← Bool.not_eq_true]
    intro sign
    exact absurd letter (ne_true_of_eq_false (isLetterForm_eq_false_of_isSignStart sign))
  have noQuote : isQuote character = false := by
    rw [← Bool.not_eq_true, isQuote_iff]
    rintro (rfl | rfl) <;> revert letter <;> decide
  have noDigit : isDecimalDigit character = false := by
    rw [← Bool.not_eq_true]
    intro digit
    exact absurd letter (ne_true_of_eq_false (isLetterForm_eq_false_of_isDecimalDigit digit))
  have noPoint : character ≠ '.' := by
    rintro rfl
    revert letter
    decide
  simp [ofStart?, noSign, noQuote, noDigit, noPoint, letter]

theorem ofStart?_of_isNameStart {character : Char} (starts : isNameStart character = true) :
    ofStart? character = some .verbal := by
  rcases (isNameStart_iff character).1 starts with upper | lower | rfl
  · exact ofStart?_of_isLetterForm ((isLetterForm_iff character).2 (.inl upper))
  · exact ofStart?_of_isLetterForm ((isLetterForm_iff character).2 (.inr (.inl lower)))
  · decide

end Family

/-! ## What rules find -/

namespace Rule

variable {tag : Tag} {text : List Char} {length : Nat}

theorem matchLength_eq_some_iff (rule : Rule) :
    rule.matchLength text = some length ↔
      rule.pattern.matchLength text = some length ∧ 0 < length := by
  rw [matchLength, Option.filter_eq_some_iff, decide_eq_true_eq]

/-- A rule for words finds the whole run of letters, where a word can end. -/
theorem length_of_word
    {spellings : List String} (listed : ⟨tag, .word spellings⟩ ∈ rules)
    (matched : matchLength ⟨tag, .word spellings⟩ text = some length) :
    length = (letterRun text).length ∧ endsWord (text.drop length) = true := by
  have entry : (tag, spellings) ∈ wordTable := List.mem_filterMap.2 ⟨_, listed, rfl⟩
  rw [matchLength_word (upper_of_mem_wordTable _ entry)] at matched
  rcases Option.map_eq_some_iff.1 matched with ⟨word, found, rfl⟩
  rcases (wordAhead?_eq_some_iff text word).1 (Option.filter_eq_some_iff.1 found).1 with
    ⟨rfl, ended⟩
  rw [List.length_map]
  exact ⟨rfl, ended⟩

/-- A rule for signs finds one of its signs at the start of the text. -/
theorem exists_sign
    {spellings : List String} (matched : matchLength ⟨tag, .sign spellings⟩ text = some length) :
    ∃ spelling ∈ spellings, spelling.toList <+: text ∧ length = spelling.toList.length := by
  have measured := ((matchLength_eq_some_iff _).1 matched).1
  rcases Option.map_eq_some_iff.1 measured with ⟨spelling, found, rfl⟩
  have fits := List.find?_some (p := fun spelling : String =>
    spelling.toList.isPrefixOf text) found
  exact ⟨spelling, List.mem_of_find?_eq_some found, List.isPrefixOf_iff_prefix.1 fits, rfl⟩

theorem isSignStart_of_head?
    {spellings : List String} (listed : ⟨tag, .sign spellings⟩ ∈ rules)
    {spelling : String} (member : spelling ∈ spellings)
    {first : Char} (atHead : spelling.toList.head? = some first) :
    isSignStart first = true := by
  have entry : (tag, spellings) ∈ signTable := List.mem_filterMap.2 ⟨_, listed, rfl⟩
  have inSigns : (tag, spelling) ∈ signs :=
    List.mem_flatMap.2 ⟨_, entry, List.mem_map_of_mem member⟩
  rw [isSignStart, List.any_eq_true]
  exact ⟨_, inSigns, by simp [atHead]⟩

/-- The first character of a text tells the family of the rules that match there. -/
theorem ofStart?_of_matchLength
    {rule : Rule} (listed : rule ∈ rules) (matched : rule.matchLength text = some length) :
    text.head?.bind Family.ofStart? = some rule.pattern.family := by
  have positive := Rule.matchLength_pos matched
  have measured := (rule.matchLength_eq_some_iff.1 matched).1
  rcases rule with ⟨tag, pattern⟩
  cases pattern with
  | word spellings =>
      rcases length_of_word listed matched with ⟨rfl, -⟩
      rcases exists_run isLetterForm text with ⟨run, rest, rfl, taken, letters, -⟩
      rw [letterRun, taken] at positive
      rcases List.exists_cons_of_length_pos positive with ⟨first, later, rfl⟩
      exact Family.ofStart?_of_isLetterForm (letters first List.mem_cons_self)
  | sign spellings =>
      rcases exists_sign matched with ⟨spelling, member, ⟨rest, rfl⟩, rfl⟩
      rcases List.exists_cons_of_length_pos positive with ⟨first, later, whole⟩
      rw [whole]
      exact Family.ofStart?_of_isSignStart (isSignStart_of_head? listed member (by rw [whole]; rfl))
  | quoted =>
      rcases (quotedLength?_eq_some_iff _ _).1 measured with ⟨quote, body, rest, isOne, -, rfl, -⟩
      exact Family.ofStart?_of_isQuote isOne
  | name =>
      rcases (nameLength?_eq_some_iff _ _).1 measured with
        ⟨name, rest, -, rfl, -⟩ | ⟨name, rest, ⟨first, parts, rfl, starts, -⟩, -, rfl, -⟩
      · have bracket : Family.ofStart? '[' = some .verbal := by decide
        exact bracket
      · exact Family.ofStart?_of_isNameStart starts
  | decimal =>
      rcases exists_decimal measured with ⟨lexeme, rest, rfl, -, form⟩
      rcases (isNumeral_of_decimal form).exists_head with ⟨first, later, rfl, starts⟩
      exact Family.ofStart?_of_numeral starts
  | integer =>
      rcases exists_integer measured with ⟨lexeme, rest, rfl, -, form⟩
      rcases IsNumeral.exists_head (.inr (.inr form)) with ⟨first, later, rfl, starts⟩
      exact Family.ofStart?_of_numeral starts

end Rule

/-! ## The order of the table -/

/--
Whether rules with a pattern may stand before rules with another one: no sign before one that
goes on with it, no name before a word, and no integer before a decimal.
-/
def Pattern.mayPrecede : Pattern → Pattern → Bool
  | sign spellings, sign others =>
      spellings.all fun spelling => others.all fun other =>
        !spelling.toList.isPrefixOf other.toList
  | name, word _ => false
  | integer, decimal => false
  | _, _ => true

theorem pairwise_mayPrecede :
    rules.Pairwise fun earlier later => earlier.pattern.mayPrecede later.pattern = true := by
  decide

/-- What else matches is the first rule that matches itself, or stands after it. -/
theorem eq_or_mayPrecede
    {text : List Char} {rule other : Rule} (first : firstRule? text = some rule)
    (listed : other ∈ rules) (matched : (other.matchLength text).isSome = true) :
    other = rule ∨ rule.pattern.mayPrecede other.pattern = true := by
  rcases List.find?_eq_some_iff_append.1 first with ⟨-, before, after, split, earlier⟩
  have ordered := pairwise_mayPrecede
  rw [split] at listed ordered
  rcases List.mem_append.1 listed with inBefore | inRest
  · have unmatched := earlier other inBefore
    rw [matched] at unmatched
    cases unmatched
  · rcases List.mem_cons.1 inRest with same | inAfter
    · exact .inl same
    · have fromRule := (List.pairwise_append.1 ordered).2.1
      exact .inr (List.rel_of_pairwise_cons fromRule inAfter)

/-- The different patterns that can match at one place, the one that is tried first before. -/
inductive Pattern.Vies : Pattern → Pattern → Prop where
  | words (spellings others : List String) :
      Vies (.word spellings) (.word others)
  | wordAndName (spellings : List String) :
      Vies (.word spellings) .name
  | signs
      {spellings others : List String}
      (apart : ∀ spelling ∈ spellings, ∀ other ∈ others, ¬ spelling.toList <+: other.toList) :
      Vies (.sign spellings) (.sign others)
  | numerals :
      Vies .decimal .integer

theorem Pattern.vies_of_mayPrecede
    {pattern other : Pattern} (sameFamily : pattern.family = other.family)
    (ordered : pattern.mayPrecede other = true) (different : pattern ≠ other) :
    Vies pattern other := by
  cases pattern with
  | word spellings =>
      cases other with
      | word others => exact .words spellings others
      | name => exact .wordAndName spellings
      | sign | quoted | decimal | integer => cases sameFamily
  | sign spellings =>
      cases other with
      | sign others =>
          apply Vies.signs
          intro spelling member otherSpelling otherMember fits
          have apart := List.all_eq_true.1 (List.all_eq_true.1 ordered spelling member)
            otherSpelling otherMember
          rw [List.isPrefixOf_iff_prefix.2 fits] at apart
          cases apart
      | word | quoted | name | decimal | integer => cases sameFamily
  | quoted =>
      cases other with
      | quoted => exact absurd rfl different
      | word | sign | name | decimal | integer => cases sameFamily
  | name =>
      cases other with
      | word others => cases ordered
      | name => exact absurd rfl different
      | sign | quoted | decimal | integer => cases sameFamily
  | decimal =>
      cases other with
      | decimal => exact absurd rfl different
      | integer => exact .numerals
      | word | sign | quoted | name => cases sameFamily
  | integer =>
      cases other with
      | decimal => cases ordered
      | integer => exact absurd rfl different
      | word | sign | quoted | name => cases sameFamily

/-- Two rules that match at one place match alike, or vie for it. -/
theorem eq_or_vies
    {text : List Char} {rule other : Rule} {length otherLength : Nat}
    (first : firstRule? text = some rule) (matched : rule.matchLength text = some length)
    (listed : other ∈ rules) (otherMatched : other.matchLength text = some otherLength) :
    rule.pattern = other.pattern ∨ rule.pattern.Vies other.pattern := by
  have isFirst : rule ∈ rules := List.mem_of_find?_eq_some first
  have start := Rule.ofStart?_of_matchLength isFirst matched
  rw [Rule.ofStart?_of_matchLength listed otherMatched] at start
  have sameFamily := (Option.some.inj start).symm
  rcases eq_or_mayPrecede first listed (Option.isSome_of_eq_some otherMatched) with rfl | ordered
  · exact .inl rfl
  · by_cases same : rule.pattern = other.pattern
    · exact .inl same
    · exact .inr (Pattern.vies_of_mayPrecede sameFamily ordered same)

theorem eq_ident_of_name : ∀ rule ∈ rules, rule.pattern = .name → rule = ⟨.ident, .name⟩ := by
  decide

/-! ## Lengths -/

/-- Of two signs at the start of a text the one that is no beginning of the other is longer. -/
theorem length_le_of_prefix
    {sign other text : List Char} (fits : sign <+: text) (otherFits : other <+: text)
    (apart : ¬ sign <+: other) :
    other.length ≤ sign.length := by
  by_contra longer
  exact apart (List.prefix_of_prefix_length_le fits otherFits (Nat.le_of_not_le longer))

theorem unsignedExponentLength_eq_zero
    {text : List Char} (signed : 0 < signedExponentLength text) :
    unsignedExponentLength text = 0 := by
  rcases exists_signedExponent text with ⟨exponent, rest, rfl, size, form⟩
  rw [size] at signed
  rcases form.resolve_left (List.length_pos_iff.1 signed) with
    ⟨mark, sign, digits, rfl, -, isSign, -⟩
  have noDigits : digitCount (sign :: (digits ++ rest)) = 0 := by
    apply digitCount_eq_zero
    simp [isDecimalDigit_eq_false_of_isExponentSign isSign]
  simp [unsignedExponentLength, noDigits]

/-- Where there is a decimal, an integer is its whole part at most. -/
theorem integerLength?_le_of_decimal
    {text : List Char} {length otherLength : Nat}
    (measured : Pattern.decimal.matchLength text = some length)
    (otherMeasured : integerLength? text = some otherLength) :
    otherLength ≤ length := by
  rcases exists_digits text with ⟨digits, later, rfl, counted, -, -⟩
  have size : otherLength = digits.length + unsignedExponentLength later := by
    simp only [integerLength?, counted, List.drop_left] at otherMeasured
    split at otherMeasured <;> cases otherMeasured
    rfl
  rw [Pattern.matchLength, Option.or_eq_some_iff] at measured
  rcases measured with pointed | ⟨-, scaled⟩
  · simp only [pointedLength?, counted, List.drop_left] at pointed
    split at pointed
    · rename_i fraction
      have noExponent : unsignedExponentLength ('.' :: fraction) = 0 := by
        simp [unsignedExponentLength, isExponentMark]
      split at pointed <;> cases pointed
      omega
    · cases pointed
  · simp only [scaledLength?, counted, List.drop_left] at scaled
    split at scaled <;> cases scaled
    rename_i positive
    rw [unsignedExponentLength_eq_zero positive.2] at size
    omega

/-- A name that goes on where a word ends goes on with one of three signs. -/
theorem exists_next_of_nameLength?
    {text : List Char} {length nameLength : Nat} (noBracket : text.head? ≠ some '[')
    (measured : nameLength? text = some nameLength) (longer : length < nameLength)
    (ended : endsWord (text.drop length) = true) :
    ∃ next rest, text.drop length = next :: rest ∧ (next = '.' ∨ next = '@' ∨ next = '$') := by
  rw [nameLength?_of_head? noBracket] at measured
  rcases (bareNameLength?_eq_some_iff _ _).1 measured with ⟨name, rest, isName, -, rfl, rfl⟩
  have left : name.drop length ≠ [] := by
    rw [ne_eq, List.drop_eq_nil_iff]
    omega
  rcases List.exists_cons_of_ne_nil left with ⟨next, later, dropped⟩
  have onward : (name ++ rest).drop length = next :: (later ++ rest) := by
    rw [List.drop_append_of_le_length (Nat.le_of_lt longer), dropped, List.cons_append]
  refine ⟨next, later ++ rest, onward, ?_⟩
  have inName : next ∈ name := List.mem_of_mem_drop (dropped ▸ List.mem_cons_self)
  rw [onward] at ended
  have notPlain := head?_eq_false_of_endsWord isWordCharacter_of_isPlainWordCharacter ended next rfl
  exact ((isNamePart_iff next).1 (isName.isNamePart next inName)).resolve_left
    (ne_true_of_eq_false notPlain)

/-! ## Longer matches -/

theorem byteLength_take_le {shorter longer : Nat} (le : shorter ≤ longer) (text : List Char) :
    byteLength (text.take shorter) ≤ byteLength (text.take longer) := by
  rcases List.take_prefix_take_left le (l := text) with ⟨rest, whole⟩
  rw [← whole, byteLength_append]
  exact Nat.le_add_right _ _

/--
A rule that matches farther than the first one is the rule for names, where a word goes on with
a point, an at sign or a dollar sign.
-/
theorem isWord_of_lt
    {text : List Char} {rule other : Rule} {length otherLength : Nat}
    (first : firstRule? text = some rule) (matched : rule.matchLength text = some length)
    (listed : other ∈ rules) (otherMatched : other.matchLength text = some otherLength)
    (longer : length < otherLength) :
    (∃ spellings, rule.pattern = .word spellings) ∧ other.pattern = .name ∧
      ∃ next rest,
        text.drop length = next :: rest ∧ (next = '.' ∨ next = '@' ∨ next = '$') := by
  have isFirst : rule ∈ rules := List.mem_of_find?_eq_some first
  have vies := eq_or_vies first matched listed otherMatched
  have measured := (rule.matchLength_eq_some_iff.1 matched).1
  have otherMeasured := (other.matchLength_eq_some_iff.1 otherMatched).1
  rcases rule with ⟨tag, pattern⟩
  rcases other with ⟨otherTag, otherPattern⟩
  rcases vies with rfl | vies
  · rw [measured] at otherMeasured
    cases otherMeasured
    exact absurd longer (Nat.lt_irrefl length)
  cases vies with
  | words spellings others =>
      have size := (Rule.length_of_word isFirst matched).1
      have otherSize := (Rule.length_of_word listed otherMatched).1
      omega
  | wordAndName spellings =>
      rcases Rule.length_of_word isFirst matched with ⟨size, ended⟩
      have noBracket : text.head? ≠ some '[' := by
        intro bracket
        rcases List.head?_eq_some_iff.1 bracket with ⟨rest, rfl⟩
        have nothing : length = 0 := size
        exact absurd (Rule.matchLength_pos matched) (Nat.not_lt.2 (Nat.le_of_eq nothing))
      exact ⟨⟨spellings, rfl⟩, rfl,
        exists_next_of_nameLength? noBracket otherMeasured longer ended⟩
  | signs apart =>
      rcases Rule.exists_sign matched with ⟨spelling, member, fits, rfl⟩
      rcases Rule.exists_sign otherMatched with ⟨otherSpelling, otherMember, otherFits, rfl⟩
      have le := length_le_of_prefix fits otherFits (apart _ member _ otherMember)
      omega
  | numerals =>
      have le := integerLength?_le_of_decimal measured otherMeasured
      omega

/-- Where no word stands, the scanner reads the longest lexeme that a rule finds. -/
theorem length_le_of_firstMatch?
    {text : List Char} {tag : Tag} {length otherLength : Nat} {other : Rule}
    (found : firstMatch? text = some (tag, length)) (noWord : wordMatch? text = none)
    (listed : other ∈ rules) (otherMatched : other.matchLength text = some otherLength) :
    otherLength ≤ length := by
  rw [firstMatch?_eq_bind, Option.bind_eq_some_iff] at found
  rcases found with ⟨rule, first, matchedTag⟩
  rcases Option.map_eq_some_iff.1 matchedTag with ⟨measured, matched, equal⟩
  cases equal
  by_contra notLonger
  rcases isWord_of_lt first matched listed otherMatched (Nat.lt_of_not_le notLonger) with
    ⟨⟨spellings, isWord⟩, -⟩
  have isFirst : rule ∈ rules := List.mem_of_find?_eq_some first
  have inWords : rule ∈ wordTable.map fun entry => (⟨entry.1, .word entry.2⟩ : Rule) := by
    refine List.mem_map.2 ⟨(rule.tag, spellings), ?_, ?_⟩
    · exact List.mem_filterMap.2 ⟨rule, isFirst, by rw [isWord]⟩
    · rw [← isWord]
  have none := List.findSome?_eq_none_iff.1 ((findSome?_wordTable text).trans noWord) rule inWords
  rw [matched] at none
  cases none

/--
The first rule that matches finds the longest lexeme of all rules, unless it is a rule for words
and the rule for names goes on where the word ends, with a point, an at sign or a dollar sign.
-/
theorem word_before_name_of_matchedBytes_lt
    {text : List Char} {rule other : Rule} {bytes otherBytes : Nat}
    (first : firstRule? text = some rule) (matched : rule.matchedBytes text = some bytes)
    (listed : other ∈ rules) (otherMatched : other.matchedBytes text = some otherBytes)
    (longer : bytes < otherBytes) :
    (∃ spellings, rule.pattern = .word spellings) ∧ other = ⟨.ident, .name⟩ ∧
      ∃ lexeme next rest,
        text = lexeme ++ next :: rest ∧ byteLength lexeme = bytes ∧
          (next = '.' ∨ next = '@' ∨ next = '$') := by
  rcases Option.map_eq_some_iff.1 matched with ⟨length, lengthMatched, rfl⟩
  rcases Option.map_eq_some_iff.1 otherMatched with ⟨otherLength, otherLengthMatched, rfl⟩
  have longerLength : length < otherLength := by
    by_contra notLonger
    have le := byteLength_take_le (Nat.le_of_not_lt notLonger) text
    omega
  rcases isWord_of_lt first lengthMatched listed otherLengthMatched longerLength with
    ⟨isWord, isName, next, rest, dropped, isSign⟩
  refine ⟨isWord, eq_ident_of_name other listed isName, text.take length, next, rest, ?_, rfl,
    isSign⟩
  rw [← dropped, List.take_append_drop]

/-- A reserved word is read at the start of a longer name. -/
theorem and_before_name :
    firstRule? "and.é".toList = some ⟨.and, .word ["AND"]⟩ ∧
      (⟨.and, .word ["AND"]⟩ : Rule).matchedBytes "and.é".toList = some 3 ∧
        ⟨.ident, .name⟩ ∈ rules ∧
          (⟨.ident, .name⟩ : Rule).matchedBytes "and.é".toList = some 4 ∧ 3 < 4 ∧
            ∃ lexeme next rest,
              "and.é".toList = lexeme ++ next :: rest ∧ byteLength lexeme = 3 ∧
                (next = '.' ∨ next = '@' ∨ next = '$') := by
  have first : firstRule? "and.é".toList = some ⟨.and, .word ["AND"]⟩ := by decide
  have matched : (⟨.and, .word ["AND"]⟩ : Rule).matchedBytes "and.é".toList = some 3 := by decide
  have listed : ⟨.ident, .name⟩ ∈ rules := by decide
  have otherMatched : (⟨.ident, .name⟩ : Rule).matchedBytes "and.é".toList = some 4 := by decide
  have longer : 3 < 4 := by decide
  have split := word_before_name_of_matchedBytes_lt first matched listed otherMatched longer
  exact ⟨first, matched, listed, otherMatched, longer, split.2.2⟩

end FindQuery.Lexis
