import FindQuery.Json.Reader

/-!
# The grammar of JSON

`Spells` relates the texts of the JSON grammar to what they denote, without reading them.  A
value may have blanks after each bracket, brace, comma and colon and before each of these but
an opening one.  A string may spell each of its code points as itself or as an escape, so one
value has many texts.  The items of an array and the members of an object are spelled up to and
including the closing mark.
-/

namespace FindQuery.Json

/-- A run of the four blanks. -/
def IsGap (gap : List Char) : Prop :=
  ∀ character ∈ gap, isSpace character = true

instance (gap : List Char) : Decidable (IsGap gap) :=
  decidable_of_iff (gap.all isSpace = true) List.all_eq_true

theorem isGap_nil : IsGap [] := by
  simp [IsGap]

/-! ## Strings -/

/-- The text of some code points after the opening quote, up to the closing quote. -/
inductive SpellsPoints : List Char → List Nat → Prop where
  | close :
      SpellsPoints ['"'] []
  | plain
      {character : Char} {text : List Char} {points : List Nat}
      (notQuote : character ≠ '"') (notBackslash : character ≠ '\\')
      (notControl : 32 ≤ character.toNat) (later : SpellsPoints text points) :
      SpellsPoints (character :: text) (character.toNat :: points)
  | short
      {letter : Char} {point : Nat} {text : List Char} {points : List Nat}
      (denotes : shortEscape? letter = some point) (later : SpellsPoints text points) :
      SpellsPoints ('\\' :: letter :: text) (point :: points)
  | code
      {first second third fourth : Char} {point : Nat} {text : List Char} {points : List Nat}
      (denotes : hexValue4? first second third fourth = some point)
      (later : SpellsPoints text points) :
      SpellsPoints ('\\' :: 'u' :: first :: second :: third :: fourth :: text) (point :: points)

/-- The text of a string, which denotes nothing where half of a surrogate pair stands alone. -/
def SpellsString (text : List Char) (denoted : Option String) : Prop :=
  ∃ body points,
    text = '"' :: body ∧ SpellsPoints body points ∧
      denoted = (decodePoints? points).map String.ofList

/-- The key of a member, a colon, and gaps around it. -/
def SpellsKey (text : List Char) (key : Option String) : Prop :=
  ∃ spelling gap otherGap,
    text = spelling ++ (gap ++ ':' :: otherGap) ∧ SpellsString spelling key ∧
      IsGap gap ∧ IsGap otherGap

/-! ## Numbers -/

/-- Digits, at least one. -/
def IsDigits (digits : List Char) : Prop :=
  digits ≠ [] ∧ ∀ digit ∈ digits, digit.isDigit = true

instance (digits : List Char) : Decidable (IsDigits digits) :=
  decidable_of_iff (digits ≠ [] ∧ digits.all Char.isDigit = true)
    (by rw [IsDigits, List.all_eq_true])

/-- A zero, or digits that start with no zero. -/
def IsWhole (whole : List Char) : Prop :=
  whole = ['0'] ∨ (IsDigits whole ∧ whole.head? ≠ some '0')

/-- Nothing, or a point and digits. -/
def IsFraction (fraction : List Char) : Prop :=
  fraction = [] ∨ ∃ digits, fraction = '.' :: digits ∧ IsDigits digits

/-- Nothing, or a mark, a sign or none, and digits. -/
def IsExponent (exponent : List Char) : Prop :=
  exponent = [] ∨
    ∃ mark sign digits,
      exponent = mark :: (sign ++ digits) ∧ (mark = 'e' ∨ mark = 'E') ∧
        (sign = [] ∨ sign = ['+'] ∨ sign = ['-']) ∧ IsDigits digits

/-- The text of a number. -/
def IsNumber (text : List Char) : Prop :=
  ∃ sign whole fraction exponent,
    text = sign ++ (whole ++ (fraction ++ exponent)) ∧ (sign = [] ∨ sign = ['-']) ∧
      IsWhole whole ∧ IsFraction fraction ∧ IsExponent exponent

/-! ## Values -/

/-- What a piece of a JSON text denotes. -/
inductive Part where
  | value (value : Json)
  /-- The items of an array from one of them on. -/
  | items (items : List Json)
  /-- The members of an object from one of them on. -/
  | members (members : List (Option String × Json))

/-- A text of the grammar and what it denotes. -/
inductive Spells : List Char → Part → Prop where
  | null :
      Spells "null".toList (.value .null)
  | yes :
      Spells "true".toList (.value (.bool true))
  | no :
      Spells "false".toList (.value (.bool false))
  | number
      {text : List Char} (isNumber : IsNumber text) :
      Spells text (.value (.number (String.ofList text)))
  | string
      {text : List Char} {denoted : String} (spelled : SpellsString text (some denoted)) :
      Spells text (.value (.string denoted))
  | undecodable
      {text : List Char} (spelled : SpellsString text none) :
      Spells text (.value .undecodable)
  | emptyArray
      {gap : List Char} (blank : IsGap gap) :
      Spells ('[' :: (gap ++ [']'])) (.value (.array []))
  | array
      {gap text : List Char} {items : List Json}
      (blank : IsGap gap) (spelled : Spells text (.items items)) :
      Spells ('[' :: (gap ++ text)) (.value (.array items))
  | emptyObject
      {gap : List Char} (blank : IsGap gap) :
      Spells ('\x7b' :: (gap ++ ['\x7d'])) (.value (.object []))
  | object
      {gap text : List Char} {members : List (Option String × Json)}
      (blank : IsGap gap) (spelled : Spells text (.members members)) :
      Spells ('\x7b' :: (gap ++ text)) (.value (objectOf members))
  | lastItem
      {text gap : List Char} {item : Json}
      (spelled : Spells text (.value item)) (blank : IsGap gap) :
      Spells (text ++ (gap ++ [']'])) (.items [item])
  | item
      {text gap otherGap later : List Char} {item : Json} {items : List Json}
      (spelled : Spells text (.value item)) (blank : IsGap gap) (otherBlank : IsGap otherGap)
      (others : Spells later (.items items)) :
      Spells (text ++ (gap ++ ',' :: (otherGap ++ later))) (.items (item :: items))
  | lastMember
      {keyText text gap : List Char} {key : Option String} {value : Json}
      (keySpelled : SpellsKey keyText key) (spelled : Spells text (.value value))
      (blank : IsGap gap) :
      Spells (keyText ++ (text ++ (gap ++ ['\x7d']))) (.members [(key, value)])
  | member
      {keyText text gap otherGap later : List Char} {key : Option String} {value : Json}
      {members : List (Option String × Json)}
      (keySpelled : SpellsKey keyText key) (spelled : Spells text (.value value))
      (blank : IsGap gap) (otherBlank : IsGap otherGap)
      (others : Spells later (.members members)) :
      Spells (keyText ++ (text ++ (gap ++ ',' :: (otherGap ++ later))))
        (.members ((key, value) :: members))

/-- A text of a value with blanks around it. -/
def IsText (text : List Char) (value : Json) : Prop :=
  ∃ gap spelling otherGap,
    text = gap ++ (spelling ++ otherGap) ∧ IsGap gap ∧ IsGap otherGap ∧
      Spells spelling (.value value)

/-! ## How spellings start -/

/-- A character that stands in no gap and closes nothing. -/
def Opens (first : Char) : Prop :=
  isSpace first = false ∧ first ≠ ']' ∧ first ≠ '\x7d'

instance (first : Char) : Decidable (Opens first) :=
  inferInstanceAs (Decidable (_ ∧ _))

theorem opens_of_isDigit {digit : Char} (isOne : digit.isDigit = true) : Opens digit := by
  refine ⟨?_, ?_, ?_⟩
  · rw [← Bool.not_eq_true, isSpace]
    intro blank
    simp only [Bool.or_eq_true, beq_iff_eq] at blank
    rcases blank with ((rfl | rfl) | rfl) | rfl <;> cases isOne
  · rintro rfl
    cases isOne
  · rintro rfl
    cases isOne

theorem IsDigits.exists_head {digits : List Char} (isDigits : IsDigits digits) :
    ∃ first later, digits = first :: later ∧ first.isDigit = true := by
  rcases List.exists_cons_of_ne_nil isDigits.1 with ⟨first, later, rfl⟩
  exact ⟨first, later, rfl, isDigits.2 first List.mem_cons_self⟩

theorem IsWhole.exists_head {whole : List Char} (isWhole : IsWhole whole) :
    ∃ first later, whole = first :: later ∧ first.isDigit = true := by
  rcases isWhole with rfl | ⟨isDigits, -⟩
  · exact ⟨'0', [], rfl, rfl⟩
  · exact isDigits.exists_head

/-- A number starts with a minus sign or a digit. -/
theorem IsNumber.exists_head {text : List Char} (isNumber : IsNumber text) :
    ∃ first later, text = first :: later ∧ (first = '-' ∨ first.isDigit = true) := by
  rcases isNumber with ⟨sign, whole, fraction, exponent, rfl, rfl | rfl, isWhole, -, -⟩
  · rcases isWhole.exists_head with ⟨first, later, rfl, isDigit⟩
    exact ⟨first, _, rfl, .inr isDigit⟩
  · exact ⟨'-', _, rfl, .inl rfl⟩

/-- Every spelling starts with a character that stands in no gap and closes nothing. -/
theorem Spells.exists_head {text : List Char} {part : Part} (spelled : Spells text part) :
    ∃ first later, text = first :: later ∧ Opens first := by
  induction spelled with
  | null => exact ⟨'n', _, rfl, by decide⟩
  | yes => exact ⟨'t', _, rfl, by decide⟩
  | no => exact ⟨'f', _, rfl, by decide⟩
  | number isNumber =>
      rcases isNumber.exists_head with ⟨first, later, rfl, rfl | isDigit⟩
      · exact ⟨'-', later, rfl, by decide⟩
      · exact ⟨first, later, rfl, opens_of_isDigit isDigit⟩
  | string spelled | undecodable spelled =>
      rcases spelled with ⟨body, points, rfl, -⟩
      exact ⟨'"', body, rfl, by decide⟩
  | emptyArray blank | array blank spelled hypothesis => exact ⟨'[', _, rfl, by decide⟩
  | emptyObject blank | object blank spelled hypothesis => exact ⟨'\x7b', _, rfl, by decide⟩
  | lastItem spelled blank hypothesis
  | item spelled blank otherBlank others hypothesis otherHypothesis =>
      rcases hypothesis with ⟨first, later, rfl, opens⟩
      exact ⟨first, _, rfl, opens⟩
  | lastMember keySpelled spelled blank | member keySpelled spelled blank otherBlank others =>
      rcases keySpelled with ⟨spelling, gap, otherGap, rfl, ⟨body, points, rfl, -⟩, -, -⟩
      exact ⟨'"', _, rfl, by decide⟩

end FindQuery.Json
