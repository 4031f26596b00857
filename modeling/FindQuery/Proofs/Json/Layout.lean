import FindQuery.Proofs.Json.Writer

/-!
# The two layouts

The indented form of a value is its compact form with blanks between the lexemes.  Blanks in
strings are no layout, so `squeeze` follows the quotes and the escapes of a text and leaves out
the blanks outside strings alone.  The compact form has no blank there and nowhere a control
character.
-/

namespace FindQuery.Json

/-! ## Leaving blanks out -/

/-- Where in a JSON text a character stands. -/
inductive Place where
  | outside
  /-- Between the quotes of a string. -/
  | inside
  /-- After a backslash in a string. -/
  | escaped
  deriving DecidableEq, Repr

/-- Where the character after a given one stands. -/
def Place.next : Place → Char → Place
  | outside, character => if character = '"' then inside else outside
  | inside, character =>
      if character = '"' then outside else if character = '\\' then escaped else inside
  | escaped, _ => inside

/-- A text without the blanks outside strings. -/
def squeezeFrom (place : Place) : List Char → List Char
  | [] => []
  | first :: rest =>
      if place = .outside ∧ isSpace first = true then
        squeezeFrom (place.next first) rest
      else
        first :: squeezeFrom (place.next first) rest

/-- A JSON text without the blanks outside its strings. -/
def squeeze (text : List Char) : List Char :=
  squeezeFrom .outside text

/-- A piece of a JSON text that begins and ends outside strings and is shown as another. -/
def SqueezesTo (piece shown : List Char) : Prop :=
  ∀ rest, squeezeFrom .outside (piece ++ rest) = shown ++ squeezeFrom .outside rest

theorem SqueezesTo.squeeze_eq {piece shown : List Char} (squeezes : SqueezesTo piece shown) :
    squeeze piece = shown := by
  have whole := squeezes []
  rwa [List.append_nil, squeezeFrom, List.append_nil] at whole

theorem squeezesTo_nil : SqueezesTo [] [] :=
  fun _ => rfl

theorem SqueezesTo.append
    {piece shown other otherShown : List Char} (squeezes : SqueezesTo piece shown)
    (otherSqueezes : SqueezesTo other otherShown) :
    SqueezesTo (piece ++ other) (shown ++ otherShown) := by
  intro rest
  rw [List.append_assoc, squeezes, otherSqueezes, List.append_assoc]

theorem IsGap.squeezesTo {gap : List Char} (blank : IsGap gap) : SqueezesTo gap [] := by
  intro rest
  induction gap with
  | nil => rfl
  | cons first later hypothesis =>
      rcases List.forall_mem_cons.1 blank with ⟨here, others⟩
      have noQuote : first ≠ '"' := by
        rintro rfl
        cases here
      rw [List.cons_append, squeezeFrom, if_pos ⟨rfl, here⟩, Place.next, if_neg noQuote]
      exact hypothesis others

/-- A character that is no blank, no quote and no control character. -/
def IsSolid (character : Char) : Prop :=
  isSpace character = false ∧ character ≠ '"' ∧ 32 ≤ character.toNat

instance (character : Char) : Decidable (IsSolid character) :=
  inferInstanceAs (Decidable (_ ∧ _))

theorem isSolid_of_all
    {text : List Char} (each : (text.all fun character => decide (IsSolid character)) = true) :
    ∀ character ∈ text, IsSolid character :=
  fun character member => of_decide_eq_true (List.all_eq_true.1 each character member)

theorem squeezesTo_of_isSolid
    {text : List Char} (solid : ∀ character ∈ text, IsSolid character) :
    SqueezesTo text text := by
  intro rest
  induction text with
  | nil => rfl
  | cons first later hypothesis =>
      rcases List.forall_mem_cons.1 solid with ⟨⟨notSpace, noQuote, -⟩, others⟩
      rw [List.cons_append, squeezeFrom, if_neg (by simp [notSpace]), Place.next,
        if_neg noQuote, hypothesis others, List.cons_append]

theorem squeezesTo_mark {mark : Char} (solid : IsSolid mark) : SqueezesTo [mark] [mark] :=
  squeezesTo_of_isSolid (by simpa using solid)

/-- A mark before a piece stays before it. -/
theorem SqueezesTo.cons
    {piece shown : List Char} (squeezes : SqueezesTo piece shown) {mark : Char}
    (solid : IsSolid mark) :
    SqueezesTo (mark :: piece) (mark :: shown) :=
  (squeezesTo_mark solid).append squeezes

/-! ## Strings -/

/-- A hexadecimal digit is neither a quote nor a backslash nor a control character. -/
theorem plain_of_hexValue?
    {digit : Char} {value : Nat} (denotes : hexValue? digit = some value) :
    digit ≠ '"' ∧ digit ≠ '\\' ∧ 32 ≤ digit.toNat := by
  refine ⟨?_, ?_, ?_⟩
  · rintro rfl
    cases denotes
  · rintro rfl
    cases denotes
  · rw [hexValue?] at denotes
    split_ifs at denotes with isDecimal isSmall isCapital
    · exact Nat.le_trans (by decide) isDecimal.1
    · exact Nat.le_trans (by decide) isSmall.1
    · exact Nat.le_trans (by decide) isCapital.1

theorem plain_of_hexValue4?
    {first second third fourth : Char} {point : Nat}
    (denotes : hexValue4? first second third fourth = some point) :
    ∀ digit ∈ [first, second, third, fourth],
      digit ≠ '"' ∧ digit ≠ '\\' ∧ 32 ≤ digit.toNat := by
  simp only [hexValue4?, Option.bind_eq_bind, Option.bind_eq_some_iff] at denotes
  rcases denotes with ⟨_, isFirst, _, isSecond, _, isThird, _, isFourth, -⟩
  simp only [List.forall_mem_cons]
  exact ⟨plain_of_hexValue? isFirst, plain_of_hexValue? isSecond, plain_of_hexValue? isThird,
    plain_of_hexValue? isFourth, by simp⟩

theorem le_toNat_of_shortEscape?
    {letter : Char} {point : Nat} (denotes : shortEscape? letter = some point) :
    32 ≤ letter.toNat := by
  rw [shortEscape?.eq_def] at denotes
  split at denotes <;> first | decide | cases denotes

/-- As it stands in the text, no character of a string is a control character. -/
theorem SpellsPoints.le_toNat
    {text : List Char} {points : List Nat} (spelled : SpellsPoints text points) :
    ∀ character ∈ text, 32 ≤ character.toNat := by
  induction spelled with
  | close => exact List.forall_mem_singleton.2 (by decide)
  | plain notQuote notBackslash notControl later hypothesis =>
      exact List.forall_mem_cons.2 ⟨notControl, hypothesis⟩
  | short denotes later hypothesis =>
      simp only [List.forall_mem_cons]
      exact ⟨by decide, le_toNat_of_shortEscape? denotes, hypothesis⟩
  | code denotes later hypothesis =>
      have digits := plain_of_hexValue4? denotes
      simp only [List.forall_mem_cons] at digits ⊢
      rcases digits with ⟨first, second, third, fourth, -⟩
      exact ⟨by decide, by decide, first.2.2, second.2.2, third.2.2, fourth.2.2, hypothesis⟩

theorem squeezeFrom_inside_cons
    {first : Char} (notQuote : first ≠ '"') (notBackslash : first ≠ '\\') (rest : List Char) :
    squeezeFrom .inside (first :: rest) = first :: squeezeFrom .inside rest := by
  rw [squeezeFrom, if_neg (by simp), Place.next, if_neg notQuote, if_neg notBackslash]

theorem SpellsString.le_toNat
    {text : List Char} {denoted : Option String} (spelled : SpellsString text denoted) :
    ∀ character ∈ text, 32 ≤ character.toNat := by
  rcases spelled with ⟨body, points, rfl, pointsSpelled, -⟩
  exact List.forall_mem_cons.2 ⟨by decide, pointsSpelled.le_toNat⟩

/-- The text of a string stays as it is up to its closing quote. -/
theorem SpellsPoints.squeezeFrom_append
    {text : List Char} {points : List Nat} (spelled : SpellsPoints text points)
    (rest : List Char) :
    squeezeFrom .inside (text ++ rest) = text ++ squeezeFrom .outside rest := by
  induction spelled with
  | close => rfl
  | plain notQuote notBackslash notControl later hypothesis =>
      rw [List.cons_append, squeezeFrom_inside_cons notQuote notBackslash, hypothesis,
        List.cons_append]
  | @short letter point text points denotes later hypothesis =>
      have escape : squeezeFrom .inside ('\\' :: letter :: (text ++ rest)) =
          '\\' :: letter :: squeezeFrom .inside (text ++ rest) :=
        rfl
      rw [List.cons_append, List.cons_append, escape, hypothesis]
      rfl
  | @code first second third fourth point text points denotes later hypothesis =>
      have digits := plain_of_hexValue4? denotes
      simp only [List.forall_mem_cons] at digits
      rcases digits with ⟨isFirst, isSecond, isThird, isFourth, -⟩
      have escape (following : List Char) :
          squeezeFrom .inside ('\\' :: 'u' :: following) =
            '\\' :: 'u' :: squeezeFrom .inside following :=
        rfl
      simp only [List.cons_append, escape, squeezeFrom_inside_cons isFirst.1 isFirst.2.1,
        squeezeFrom_inside_cons isSecond.1 isSecond.2.1,
        squeezeFrom_inside_cons isThird.1 isThird.2.1,
        squeezeFrom_inside_cons isFourth.1 isFourth.2.1, hypothesis]

theorem SpellsString.squeezesTo
    {text : List Char} {denoted : Option String} (spelled : SpellsString text denoted) :
    SqueezesTo text text := by
  rcases spelled with ⟨body, points, rfl, pointsSpelled, -⟩
  intro rest
  have opened : squeezeFrom .outside ('"' :: (body ++ rest)) =
      '"' :: squeezeFrom .inside (body ++ rest) :=
    rfl
  rw [List.cons_append, opened, pointsSpelled.squeezeFrom_append, List.cons_append]

/-! ## Numbers -/

theorem isSolid_of_isDigit {digit : Char} (isDigit : digit.isDigit = true) : IsSolid digit := by
  refine ⟨(opens_of_isDigit isDigit).1, ?_, ?_⟩
  · rintro rfl
    cases isDigit
  · rw [Char.isDigit, Bool.and_eq_true, decide_eq_true_eq, decide_eq_true_eq] at isDigit
    exact Nat.le_trans (by decide) isDigit.1

/-- A number holds no blank, no quote and no control character. -/
theorem IsNumber.isSolid {text : List Char} (isNumber : IsNumber text) :
    ∀ character ∈ text, IsSolid character := by
  have solid {digits : List Char} (isDigits : IsDigits digits) :
      ∀ character ∈ digits, IsSolid character :=
    fun character member => isSolid_of_isDigit (isDigits.2 character member)
  rcases isNumber with
    ⟨sign, whole, fraction, exponent, rfl, isSign, isWhole, isFraction, isExponent⟩
  simp only [List.forall_mem_append]
  refine ⟨?_, ?_, ?_, ?_⟩
  · rcases isSign with rfl | rfl <;> exact isSolid_of_all (by decide)
  · rcases isWhole with rfl | ⟨isDigits, -⟩
    · exact isSolid_of_all (by decide)
    · exact solid isDigits
  · rcases isFraction with rfl | ⟨digits, rfl, isDigits⟩
    · exact isSolid_of_all (by decide)
    · exact List.forall_mem_cons.2 ⟨by decide, solid isDigits⟩
  · rcases isExponent with rfl | ⟨mark, sign, digits, rfl, isMark, isSign, isDigits⟩
    · exact isSolid_of_all (by decide)
    · simp only [List.forall_mem_cons, List.forall_mem_append]
      refine ⟨?_, ?_, solid isDigits⟩
      · rcases isMark with rfl | rfl <;> decide
      · rcases isSign with rfl | rfl | rfl <;> exact isSolid_of_all (by decide)

/-! ## Values -/

theorem squeezesTo_newLine (depth : Nat) : SqueezesTo (newLine depth) [] :=
  (isGap_newLine depth).squeezesTo

/-- A key and a value are parted by a space in the indented form alone. -/
theorem SqueezesTo.keyed
    {piece shown : List Char} (squeezes : SqueezesTo piece shown) (key : String) :
    SqueezesTo (quote key ++ ':' :: ' ' :: piece) (quote key ++ ':' :: shown) := by
  have space : SqueezesTo [' '] [] := by
    apply IsGap.squeezesTo
    simp [IsGap, isSpace]
  have spaced : SqueezesTo (' ' :: piece) shown := space.append squeezes
  exact (spellsString_quote key).squeezesTo.append (spaced.cons (by decide))

theorem squeezesTo_indentedItems
    {items : List Json}
    (each : ∀ item ∈ items, ∀ depth, SqueezesTo (indented depth item) (compact item))
    (depth : Nat) :
    SqueezesTo (indentedItems depth items) (compactItems items) := by
  induction items with
  | nil => exact squeezesTo_nil
  | cons item later hypothesis =>
      rcases List.forall_mem_cons.1 each with ⟨here, others⟩
      have inner := ((squeezesTo_newLine depth).append (here depth)).append (hypothesis others)
      exact inner.cons (by decide)

theorem squeezesTo_indentedMembers
    {members : List (String × Json)}
    (each : ∀ member ∈ members, ∀ depth, SqueezesTo (indented depth member.2) (compact member.2))
    (depth : Nat) :
    SqueezesTo (indentedMembers depth members) (compactMembers members) := by
  induction members with
  | nil => exact squeezesTo_nil
  | cons member later hypothesis =>
      rcases member with ⟨key, value⟩
      rcases List.forall_mem_cons.1 each with ⟨here, others⟩
      have entry := ((here depth).append (hypothesis others)).keyed key
      have inner := (squeezesTo_newLine depth).append entry
      have separated : SqueezesTo (',' :: _) (',' :: _) := inner.cons (by decide)
      simpa [indentedMembers, compactMembers] using separated

/-- The indented form is the compact form with blanks outside strings, at every depth. -/
theorem WellFormed.squeezesTo_indented
    {value : Json} (wellFormed : WellFormed value) :
    ∀ depth, SqueezesTo (indented depth value) (compact value) := by
  induction wellFormed with
  | null =>
      intro depth
      show SqueezesTo "null".toList "null".toList
      exact squeezesTo_of_isSolid (isSolid_of_all (by decide))
  | bool value =>
      intro depth
      cases value with
      | false =>
          show SqueezesTo "false".toList "false".toList
          exact squeezesTo_of_isSolid (isSolid_of_all (by decide))
      | true =>
          show SqueezesTo "true".toList "true".toList
          exact squeezesTo_of_isSolid (isSolid_of_all (by decide))
  | number isNumber =>
      intro depth
      exact squeezesTo_of_isSolid isNumber.isSolid
  | string text =>
      intro depth
      exact (spellsString_quote text).squeezesTo
  | undecodable =>
      intro depth
      exact spellsString_undecodable.squeezesTo
  | @array items each hypothesis =>
      intro depth
      cases items with
      | nil =>
          show SqueezesTo ['[', ']'] ['[', ']']
          exact squeezesTo_of_isSolid (isSolid_of_all (by decide))
      | cons first later =>
          rcases List.forall_mem_cons.1 hypothesis with ⟨here, others⟩
          have inner := (((squeezesTo_newLine (depth + 1)).append (here (depth + 1))).append
            (squeezesTo_indentedItems others (depth + 1))).append (squeezesTo_newLine depth)
          have closed : SqueezesTo (_ ++ [']']) (_ ++ [']']) :=
            inner.append (squeezesTo_mark (by decide))
          have opened : SqueezesTo ('[' :: _) ('[' :: _) := closed.cons (by decide)
          simpa [indented, compact] using opened
  | @object members each hypothesis =>
      intro depth
      cases members with
      | nil =>
          show SqueezesTo ['\x7b', '\x7d'] ['\x7b', '\x7d']
          exact squeezesTo_of_isSolid (isSolid_of_all (by decide))
      | cons first later =>
          rcases first with ⟨key, value⟩
          rcases List.forall_mem_cons.1 hypothesis with ⟨here, others⟩
          have inner := ((here (depth + 1)).append
            (squeezesTo_indentedMembers others (depth + 1))).append (squeezesTo_newLine depth)
          have closed : SqueezesTo (_ ++ ['\x7d']) (_ ++ ['\x7d']) :=
            inner.append (squeezesTo_mark (by decide))
          have entry := (squeezesTo_newLine (depth + 1)).append (closed.keyed key)
          have opened : SqueezesTo ('\x7b' :: _) ('\x7b' :: _) := entry.cons (by decide)
          simpa [indented, compact] using opened

/-- Without the blanks outside strings the indented form is the compact form. -/
theorem WellFormed.squeeze_indented
    {value : Json} (wellFormed : WellFormed value) (depth : Nat) :
    squeeze (indented depth value) = compact value :=
  (wellFormed.squeezesTo_indented depth).squeeze_eq

/-! ## Control characters -/

theorem le_toNat_of_isSolid {text : List Char} (solid : ∀ character ∈ text, IsSolid character) :
    ∀ character ∈ text, 32 ≤ character.toNat :=
  fun character member => (solid character member).2.2

theorem le_toNat_compactItems
    {items : List Json} (each : ∀ item ∈ items, ∀ character ∈ compact item, 32 ≤ character.toNat) :
    ∀ character ∈ compactItems items, 32 ≤ character.toNat := by
  induction items with
  | nil => simp [compactItems]
  | cons item later hypothesis =>
      rcases List.forall_mem_cons.1 each with ⟨here, others⟩
      rw [compactItems, List.forall_mem_cons, List.forall_mem_append]
      exact ⟨by decide, here, hypothesis others⟩

theorem le_toNat_compactMembers
    {members : List (String × Json)}
    (each : ∀ member ∈ members, ∀ character ∈ compact member.2, 32 ≤ character.toNat) :
    ∀ character ∈ compactMembers members, 32 ≤ character.toNat := by
  induction members with
  | nil => simp [compactMembers]
  | cons member later hypothesis =>
      rcases member with ⟨key, value⟩
      rcases List.forall_mem_cons.1 each with ⟨here, others⟩
      simp only [compactMembers, List.forall_mem_cons, List.forall_mem_append]
      exact ⟨by decide, (spellsString_quote key).le_toNat, by decide, here, hypothesis others⟩

/-- The compact form holds no control character, and so no line break. -/
theorem WellFormed.le_toNat_compact {value : Json} (wellFormed : WellFormed value) :
    ∀ character ∈ compact value, 32 ≤ character.toNat := by
  induction wellFormed with
  | null => exact le_toNat_of_isSolid (isSolid_of_all (by decide))
  | bool value => cases value <;> exact le_toNat_of_isSolid (isSolid_of_all (by decide))
  | number isNumber => exact le_toNat_of_isSolid isNumber.isSolid
  | string text => exact (spellsString_quote text).le_toNat
  | undecodable => exact spellsString_undecodable.le_toNat
  | @array items each hypothesis =>
      cases items with
      | nil => exact le_toNat_of_isSolid (isSolid_of_all (by decide))
      | cons first later =>
          rcases List.forall_mem_cons.1 hypothesis with ⟨here, others⟩
          simp only [compact, List.forall_mem_cons, List.forall_mem_append]
          exact ⟨by decide, ⟨here, le_toNat_compactItems others⟩, by decide, by simp⟩
  | @object members each hypothesis =>
      cases members with
      | nil => exact le_toNat_of_isSolid (isSolid_of_all (by decide))
      | cons first later =>
          rcases first with ⟨key, value⟩
          rcases List.forall_mem_cons.1 hypothesis with ⟨here, others⟩
          simp only [compact, List.forall_mem_cons, List.forall_mem_append]
          exact ⟨by decide, (spellsString_quote key).le_toNat, by decide,
            ⟨here, le_toNat_compactMembers others⟩, by decide, by simp⟩

end FindQuery.Json
