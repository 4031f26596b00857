import FindQuery.Proofs.Json.Grammar
import FindQuery.Proofs.Text.Run

/-!
# Reading what the grammar spells

The reader finds what a text of the grammar denotes, and stops where the text ends, whatever
follows it; only a number must not be followed by what could go on with it.  The text has a
character for every second nested reading, so the reader's bound on the depth is never met.
-/

namespace FindQuery.Json

open FindQuery.Text

/-! ## Gaps -/

theorem skipSpace_append
    {gap rest : List Char} (blank : IsGap gap) (solid : ∀ next ∈ rest.head?, isSpace next = false) :
    skipSpace (gap ++ rest) = rest :=
  dropWhile_append_of_head? blank solid

theorem Spells.solid
    {text : List Char} {part : Part} (spelled : Spells text part) (rest : List Char) :
    ∀ next ∈ (text ++ rest).head?, isSpace next = false := by
  rcases spelled.exists_head with ⟨first, later, rfl, opens⟩
  simpa using opens.1

/-- What a text of the grammar starts with closes no array and no object. -/
theorem Spells.notClosed
    {text : List Char} {part : Part} (spelled : Spells text part) (rest : List Char) :
    (text ++ rest).head? ≠ some ']' ∧ (text ++ rest).head? ≠ some '\x7d' := by
  rcases spelled.exists_head with ⟨first, later, rfl, opens⟩
  simpa using opens.2

/-! ## Strings -/

theorem readPoints?_append
    {text : List Char} {points : List Nat} (spelled : SpellsPoints text points)
    (rest : List Char) :
    readPoints? (text ++ rest) = some (points, rest) := by
  induction spelled with
  | close => rfl
  | plain notQuote notBackslash notControl later hypothesis =>
      rw [List.cons_append, readPoints?, if_neg (Nat.not_lt.2 notControl), hypothesis]
      · rfl
      · simp [notQuote]
      · simp [notBackslash]
      · simp [notBackslash]
  | short denotes later hypothesis =>
      rw [List.cons_append, List.cons_append, readPoints?, hypothesis, denotes]
      · rfl
      · rintro first second third fourth others rfl
        cases denotes
  | code denotes later hypothesis =>
      simp only [List.cons_append, readPoints?, hypothesis, denotes]
      rfl

/-- The text of a string is read up to its closing quote. -/
theorem readString?_append
    {body : List Char} {points : List Nat} (spelled : SpellsPoints body points)
    (rest : List Char) :
    readString? (body ++ rest) = some ((decodePoints? points).map String.ofList, rest) := by
  rw [readString?, readPoints?_append spelled]
  rfl

/-! ## Numbers -/

/-- A character that goes on with a number. -/
def goesOn (character : Char) : Bool :=
  character.isDigit || character == '.' || character == 'e' || character == 'E'

/-- A text that does not go on with a number before it. -/
def EndsNumber (rest : List Char) : Prop :=
  ∀ next ∈ rest.head?, goesOn next = false

theorem EndsNumber.noDigit {rest : List Char} (ends : EndsNumber rest) :
    ∀ next ∈ rest.head?, next.isDigit = false := by
  intro next atHead
  have stops := ends next atHead
  simp only [goesOn, Bool.or_eq_false_iff] at stops
  exact stops.1.1.1

theorem skipDigits?_append
    {digits rest : List Char} (isDigits : IsDigits digits)
    (ends : ∀ next ∈ rest.head?, next.isDigit = false) :
    skipDigits? (digits ++ rest) = some rest := by
  have taken := takeWhile_append_of_head? isDigits.2 ends
  have left := dropWhile_append_of_head? isDigits.2 ends
  rw [skipDigits?, taken, left, if_neg]
  simpa using isDigits.1

theorem skipWhole?_append
    {whole rest : List Char} (isWhole : IsWhole whole)
    (ends : ∀ next ∈ rest.head?, next.isDigit = false) :
    skipWhole? (whole ++ rest) = some rest := by
  rcases isWhole with rfl | ⟨isDigits, noZero⟩
  · rfl
  · rcases isDigits.exists_head with ⟨first, later, rfl, -⟩
    have notZero : first ≠ '0' := by simpa using noZero
    rw [List.cons_append, skipWhole?]
    · exact skipDigits?_append isDigits ends
    · rintro others same
      exact notZero (List.cons.inj same).1

/-- Nothing that an exponent or the end of a number starts with goes on with the digits before. -/
theorem IsExponent.noDigit
    {exponent rest : List Char} (isExponent : IsExponent exponent) (ends : EndsNumber rest) :
    ∀ next ∈ (exponent ++ rest).head?, next.isDigit = false ∧ next ≠ '.' := by
  rcases isExponent with rfl | ⟨mark, sign, digits, rfl, rfl | rfl, -, -⟩
  · intro next atHead
    have stops := ends next atHead
    simp only [goesOn, Bool.or_eq_false_iff, beq_eq_false_iff_ne] at stops
    exact ⟨stops.1.1.1, stops.1.1.2⟩
  · simp
  · simp

theorem IsFraction.noDigit
    {fraction rest : List Char} (isFraction : IsFraction fraction)
    (ends : ∀ next ∈ rest.head?, next.isDigit = false ∧ next ≠ '.') :
    ∀ next ∈ (fraction ++ rest).head?, next.isDigit = false := by
  rcases isFraction with rfl | ⟨digits, rfl, -⟩
  · exact fun next atHead => (ends next atHead).1
  · simp

theorem skipFraction?_append
    {fraction rest : List Char} (isFraction : IsFraction fraction)
    (ends : ∀ next ∈ rest.head?, next.isDigit = false ∧ next ≠ '.') :
    skipFraction? (fraction ++ rest) = some rest := by
  rcases isFraction with rfl | ⟨digits, rfl, isDigits⟩
  · rw [List.nil_append, skipFraction?]
    rintro later rfl
    exact (ends '.' rfl).2 rfl
  · exact skipDigits?_append isDigits fun next atHead => (ends next atHead).1

theorem skipExponent?_append
    {exponent rest : List Char} (isExponent : IsExponent exponent) (ends : EndsNumber rest) :
    skipExponent? (exponent ++ rest) = some rest := by
  rcases isExponent with rfl | ⟨mark, sign, digits, rfl, isMark, isSign, isDigits⟩
  · cases rest with
    | nil => rfl
    | cons next later =>
        have stops := ends next rfl
        simp only [goesOn, Bool.or_eq_false_iff, beq_eq_false_iff_ne] at stops
        have noMark : ¬ (next = 'e' ∨ next = 'E') := not_or.2 ⟨stops.1.2, stops.2⟩
        exact if_neg noMark
  · have skipped := skipDigits?_append isDigits ends.noDigit
    rcases isDigits.exists_head with ⟨first, later, rfl, isDigit⟩
    simp only [List.cons_append, List.append_assoc, skipExponent?, if_pos isMark]
    rcases isSign with rfl | rfl | rfl
    · rw [List.nil_append]
      split
      · rename_i same
        cases same
        cases isDigit
      · rename_i same
        cases same
        cases isDigit
      · exact skipped
    · exact skipped
    · exact skipped

/-- A number is read from after its sign. -/
theorem readNumber?_of_unsigned
    {text unsigned : List Char}
    (signed : text = '-' :: unsigned ∨ (text = unsigned ∧ unsigned.head? ≠ some '-')) :
    readNumber? text = (do
      let afterWhole ← skipWhole? unsigned
      let afterFraction ← skipFraction? afterWhole
      let after ← skipExponent? afterFraction
      return (.number (String.ofList (text.take (text.length - after.length))), after)) := by
  rcases signed with rfl | ⟨rfl, noSign⟩
  · rfl
  · rw [readNumber?]
    rintro later rfl
    exact noSign rfl

/-- A number is read up to where the text stops going on with it. -/
theorem readNumber?_append
    {text rest : List Char} (isNumber : IsNumber text) (ends : EndsNumber rest) :
    readNumber? (text ++ rest) = some (.number (String.ofList text), rest) := by
  have taken : (text ++ rest).take ((text ++ rest).length - rest.length) = text := by
    rw [List.length_append, Nat.add_sub_cancel_right, List.take_left]
  rcases isNumber with
    ⟨sign, whole, fraction, exponent, parts, isSign, isWhole, isFraction, isExponent⟩
  have afterFraction := isExponent.noDigit ends
  have afterWhole := isFraction.noDigit afterFraction
  have signed : text ++ rest = '-' :: (whole ++ (fraction ++ (exponent ++ rest))) ∨
      (text ++ rest = whole ++ (fraction ++ (exponent ++ rest)) ∧
        (whole ++ (fraction ++ (exponent ++ rest))).head? ≠ some '-') := by
    rcases isSign with rfl | rfl
    · rcases isWhole.exists_head with ⟨first, later, rfl, isDigit⟩
      refine .inr ⟨by simp [parts], ?_⟩
      rintro same
      cases same
      cases isDigit
    · exact .inl (by simp [parts])
  rw [readNumber?_of_unsigned signed, skipWhole?_append isWhole afterWhole, Option.bind_eq_bind,
    Option.bind_some, skipFraction?_append isFraction afterFraction, Option.bind_some,
    skipExponent?_append isExponent ends, Option.bind_some, taken]
  rfl

/-! ## Values -/

/-- A reading of a text as a part of a JSON text. -/
def Part.IsRead (fuel : Nat) (text rest : List Char) : Part → Prop
  | .value denoted => readValue? fuel text = some (denoted, rest)
  | .items denoted => readItems? fuel text = some (denoted, rest)
  | .members denoted => readMembers? fuel text = some (denoted, rest)

theorem goesOn_of_isSpace {character : Char} (blank : isSpace character = true) :
    goesOn character = false := by
  simp only [isSpace, Bool.or_eq_true, beq_iff_eq] at blank
  rcases blank with ((rfl | rfl) | rfl) | rfl <;> rfl

theorem EndsNumber.of_mark
    {gap rest : List Char} {mark : Char} (blank : IsGap gap) (stops : goesOn mark = false) :
    EndsNumber (gap ++ mark :: rest) := by
  intro next atHead
  cases gap with
  | nil =>
      cases atHead
      exact stops
  | cons first later =>
      cases atHead
      exact goesOn_of_isSpace (blank next List.mem_cons_self)

/-- The reader tells a number by its first character. -/
theorem readValue?_of_number
    {first : Char} (starts : first = '-' ∨ first.isDigit = true) (fuel : Nat)
    (rest : List Char) :
    readValue? (fuel + 1) (first :: rest) = readNumber? (first :: rest) := by
  have noMark {mark : Char} (isNone : mark ≠ '-' ∧ mark.isDigit = false) : first ≠ mark := by
    rintro rfl
    rcases starts with same | isDigit
    · exact isNone.1 same
    · rw [isNone.2] at isDigit
      cases isDigit
  rw [readValue?]
  all_goals
    rintro later same
    exact noMark (by decide) (List.cons.inj same).1

theorem readValue?_string
    {body : List Char} {points : List Nat} (spelled : SpellsPoints body points) (fuel : Nat)
    (rest : List Char) :
    readValue? (fuel + 1) ('"' :: (body ++ rest)) =
      some ((((decodePoints? points).map String.ofList).map Json.string).getD .undecodable,
        rest) := by
  rw [readValue?, readString?_append spelled]
  cases decodePoints? points <;> rfl

/-- The items of an array are read after the gap behind its bracket. -/
theorem readValue?_array
    {fuel : Nat} {text inner rest : List Char} {items : List Json}
    (skipped : skipSpace text = inner) (notClosed : inner.head? ≠ some ']')
    (read : readItems? fuel inner = some (items, rest)) :
    readValue? (fuel + 1) ('[' :: text) = some (.array items, rest) := by
  rw [readValue?, skipped]
  split
  · exact absurd rfl notClosed
  · rw [read]
    rfl

/-- The members of an object are read after the gap behind its brace. -/
theorem readValue?_object
    {fuel : Nat} {text inner rest : List Char} {members : List (Option String × Json)}
    (skipped : skipSpace text = inner) (notClosed : inner.head? ≠ some '\x7d')
    (read : readMembers? fuel inner = some (members, rest)) :
    readValue? (fuel + 1) ('\x7b' :: text) = some (objectOf members, rest) := by
  rw [readValue?, skipped]
  split
  · exact absurd rfl notClosed
  · rw [read]
    rfl

theorem skipSpace_mark
    {gap : List Char} {mark : Char} (blank : IsGap gap) (solid : isSpace mark = false)
    (rest : List Char) :
    skipSpace (gap ++ mark :: rest) = mark :: rest :=
  skipSpace_append blank (by simpa using solid)

theorem readItems?_last
    {fuel : Nat} {text gap rest : List Char} {item : Json} (blank : IsGap gap)
    (read : readValue? fuel text = some (item, gap ++ ']' :: rest)) :
    readItems? (fuel + 1) text = some ([item], rest) := by
  have closing : isSpace ']' = false := rfl
  simp only [readItems?, read, Option.bind_eq_bind, Option.bind_some,
    skipSpace_mark blank closing, Option.pure_def]

theorem readItems?_item
    {fuel : Nat} {text gap later inner rest : List Char} {item : Json} {items : List Json}
    (blank : IsGap gap) (read : readValue? fuel text = some (item, gap ++ ',' :: later))
    (skipped : skipSpace later = inner) (others : readItems? fuel inner = some (items, rest)) :
    readItems? (fuel + 1) text = some (item :: items, rest) := by
  have comma : isSpace ',' = false := rfl
  simp only [readItems?, read, Option.bind_eq_bind, Option.bind_some,
    skipSpace_mark blank comma, skipped, others, Option.pure_def]

theorem readMembers?_last
    {fuel : Nat} {keyText text gap rest : List Char} {key : Option String} {value : Json}
    (keySpelled : SpellsKey keyText key) (solid : ∀ next ∈ text.head?, isSpace next = false)
    (blank : IsGap gap)
    (read : readValue? fuel text = some (value, gap ++ '\x7d' :: rest)) :
    readMembers? (fuel + 1) (keyText ++ text) = some ([(key, value)], rest) := by
  rcases keySpelled with
    ⟨spelling, keyGap, valueGap, rfl, ⟨body, points, rfl, pointsSpelled, rfl⟩, keyBlank,
      valueBlank⟩
  have colon : isSpace ':' = false := rfl
  have closing : isSpace '\x7d' = false := rfl
  simp only [List.append_assoc, List.cons_append, readMembers?, Option.bind_eq_bind,
    Option.bind_some, readString?_append pointsSpelled, skipSpace_mark keyBlank colon,
    skipSpace_append valueBlank solid, read, skipSpace_mark blank closing, Option.pure_def]

theorem readMembers?_member
    {fuel : Nat} {keyText text gap later inner rest : List Char} {key : Option String}
    {value : Json} {members : List (Option String × Json)}
    (keySpelled : SpellsKey keyText key) (solid : ∀ next ∈ text.head?, isSpace next = false)
    (blank : IsGap gap) (read : readValue? fuel text = some (value, gap ++ ',' :: later))
    (skipped : skipSpace later = inner)
    (others : readMembers? fuel inner = some (members, rest)) :
    readMembers? (fuel + 1) (keyText ++ text) = some ((key, value) :: members, rest) := by
  rcases keySpelled with
    ⟨spelling, keyGap, valueGap, rfl, ⟨body, points, rfl, pointsSpelled, rfl⟩, keyBlank,
      valueBlank⟩
  have colon : isSpace ':' = false := rfl
  have comma : isSpace ',' = false := rfl
  simp only [List.append_assoc, List.cons_append, readMembers?, Option.bind_eq_bind,
    Option.bind_some, readString?_append pointsSpelled, skipSpace_mark keyBlank colon,
    skipSpace_append valueBlank solid, read, skipSpace_mark blank comma, skipped, others,
    Option.pure_def]

/-- A text of the grammar needs fuel, since it has a character. -/
theorem Spells.exists_fuel
    {text : List Char} {part : Part} (spelled : Spells text part) {fuel : Nat}
    (enough : 2 * text.length ≤ fuel) :
    ∃ less, fuel = less + 1 := by
  rcases spelled.exists_head with ⟨first, later, rfl, -⟩
  rw [List.length_cons] at enough
  exact ⟨fuel - 1, by omega⟩

/-- What the grammar spells is read with enough fuel. -/
theorem Spells.isRead
    {text : List Char} {part : Part} (spelled : Spells text part) :
    ∀ {fuel : Nat} {rest : List Char},
      2 * text.length ≤ fuel → EndsNumber rest → part.IsRead fuel (text ++ rest) rest := by
  induction spelled with
  | null =>
      intro fuel rest enough ends
      rcases Spells.null.exists_fuel enough with ⟨less, rfl⟩
      rfl
  | yes =>
      intro fuel rest enough ends
      rcases Spells.yes.exists_fuel enough with ⟨less, rfl⟩
      rfl
  | no =>
      intro fuel rest enough ends
      rcases Spells.no.exists_fuel enough with ⟨less, rfl⟩
      rfl
  | number isNumber =>
      intro fuel rest enough ends
      rcases (Spells.number isNumber).exists_fuel enough with ⟨less, rfl⟩
      rcases isNumber.exists_head with ⟨first, later, rfl, starts⟩
      rw [Part.IsRead, List.cons_append, readValue?_of_number starts, ← List.cons_append]
      exact readNumber?_append isNumber ends
  | string spelled =>
      intro fuel rest enough ends
      rcases (Spells.string spelled).exists_fuel enough with ⟨less, rfl⟩
      rcases spelled with ⟨body, points, rfl, pointsSpelled, denoted⟩
      rw [Part.IsRead, List.cons_append, readValue?_string pointsSpelled, ← denoted]
      rfl
  | undecodable spelled =>
      intro fuel rest enough ends
      rcases (Spells.undecodable spelled).exists_fuel enough with ⟨less, rfl⟩
      rcases spelled with ⟨body, points, rfl, pointsSpelled, denoted⟩
      rw [Part.IsRead, List.cons_append, readValue?_string pointsSpelled, ← denoted]
      rfl
  | emptyArray blank =>
      intro fuel rest enough ends
      rcases (Spells.emptyArray blank).exists_fuel enough with ⟨less, rfl⟩
      have closing : isSpace ']' = false := rfl
      rw [Part.IsRead, List.cons_append, List.append_assoc, readValue?]
      simp only [List.singleton_append, skipSpace_mark blank closing]
  | @array gap text items blank spelled hypothesis =>
      intro fuel rest enough ends
      rcases (Spells.array blank spelled).exists_fuel enough with ⟨less, rfl⟩
      rw [List.length_cons, List.length_append] at enough
      have read : readItems? less (text ++ rest) = some (items, rest) :=
        hypothesis (by omega) ends
      rw [Part.IsRead, List.cons_append, List.append_assoc]
      exact readValue?_array (skipSpace_append blank (spelled.solid rest))
        (spelled.notClosed rest).1 read
  | emptyObject blank =>
      intro fuel rest enough ends
      rcases (Spells.emptyObject blank).exists_fuel enough with ⟨less, rfl⟩
      have closing : isSpace '\x7d' = false := rfl
      rw [Part.IsRead, List.cons_append, List.append_assoc, readValue?]
      simp only [List.singleton_append, skipSpace_mark blank closing]
  | @object gap text members blank spelled hypothesis =>
      intro fuel rest enough ends
      rcases (Spells.object blank spelled).exists_fuel enough with ⟨less, rfl⟩
      rw [List.length_cons, List.length_append] at enough
      have read : readMembers? less (text ++ rest) = some (members, rest) :=
        hypothesis (by omega) ends
      rw [Part.IsRead, List.cons_append, List.append_assoc]
      exact readValue?_object (skipSpace_append blank (spelled.solid rest))
        (spelled.notClosed rest).2 read
  | lastItem spelled blank hypothesis =>
      intro fuel rest enough ends
      rcases (Spells.lastItem spelled blank).exists_fuel enough with ⟨less, rfl⟩
      simp only [List.length_append, List.length_singleton] at enough
      simp only [List.append_assoc, List.singleton_append]
      exact readItems?_last blank (hypothesis (by omega) (.of_mark blank rfl))
  | item spelled blank otherBlank others hypothesis otherHypothesis =>
      intro fuel rest enough ends
      rcases (Spells.item spelled blank otherBlank others).exists_fuel enough with ⟨less, rfl⟩
      simp only [List.length_append, List.length_cons] at enough
      simp only [List.append_assoc, List.cons_append]
      exact readItems?_item blank (hypothesis (by omega) (.of_mark blank rfl))
        (skipSpace_append otherBlank (others.solid rest)) (otherHypothesis (by omega) ends)
  | lastMember keySpelled spelled blank hypothesis =>
      intro fuel rest enough ends
      rcases (Spells.lastMember keySpelled spelled blank).exists_fuel enough with ⟨less, rfl⟩
      simp only [List.length_append, List.length_singleton] at enough
      simp only [List.append_assoc, List.singleton_append]
      exact readMembers?_last keySpelled (spelled.solid _) blank
        (hypothesis (by omega) (.of_mark blank rfl))
  | member keySpelled spelled blank otherBlank others hypothesis otherHypothesis =>
      intro fuel rest enough ends
      rcases (Spells.member keySpelled spelled blank otherBlank others).exists_fuel enough with
        ⟨less, rfl⟩
      simp only [List.length_append, List.length_cons] at enough
      simp only [List.append_assoc, List.cons_append]
      exact readMembers?_member keySpelled (spelled.solid _) blank
        (hypothesis (by omega) (.of_mark blank rfl))
        (skipSpace_append otherBlank (others.solid rest)) (otherHypothesis (by omega) ends)

/-- Every JSON text is read as what it denotes. -/
theorem read?_of_isText {text : List Char} {value : Json} (isText : IsText text value) :
    read? text = some value := by
  rcases isText with ⟨gap, spelling, otherGap, rfl, blank, otherBlank, spelled⟩
  have ends : EndsNumber otherGap := by
    cases otherGap with
    | nil => simp [EndsNumber]
    | cons first later =>
        exact .of_mark isGap_nil (goesOn_of_isSpace (otherBlank first List.mem_cons_self))
  have enough : 2 * spelling.length ≤ 2 * (gap ++ (spelling ++ otherGap)).length + 2 := by
    simp only [List.length_append]
    omega
  have read : readValue? (2 * (gap ++ (spelling ++ otherGap)).length + 2)
      (spelling ++ otherGap) = some (value, otherGap) :=
    spelled.isRead enough ends
  have nothingLeft : skipSpace otherGap = [] := by
    have skipped : skipSpace (otherGap ++ []) = [] := skipSpace_append otherBlank (by simp)
    rwa [List.append_nil] at skipped
  rw [read?, skipSpace_append blank (spelled.solid otherGap), read]
  simp [nothingLeft]

end FindQuery.Json
