import FindQuery.Json.Writer
import FindQuery.Proofs.Json.Reader
import Mathlib.Tactic.SplitIfs

/-!
# Writing what is read back

Both forms of a value are texts of the grammar that denote the value, so they read back, and the
compact form tells values apart.  Every character of a string is spelled by its escape, whatever
it is, and the writer leaves no control character as it is.
-/

namespace FindQuery.Json

/-- A value whose numbers have the texts of numbers. -/
inductive WellFormed : Json → Prop where
  | null :
      WellFormed .null
  | bool (value : Bool) :
      WellFormed (.bool value)
  | number
      {text : String} (isNumber : IsNumber text.toList) :
      WellFormed (.number text)
  | string (text : String) :
      WellFormed (.string text)
  | array
      {items : List Json} (each : ∀ item ∈ items, WellFormed item) :
      WellFormed (.array items)
  | object
      {members : List (String × Json)} (each : ∀ member ∈ members, WellFormed member.2) :
      WellFormed (.object members)
  | undecodable :
      WellFormed .undecodable

/-! ## Strings -/

theorem hexValue4?_hexDigit :
    ∀ number < 32,
      hexValue4? '0' '0' (hexDigit (number / 16)) (hexDigit (number % 16)) = some number := by
  decide

/-- A character as the writer puts it in a string spells its code point. -/
theorem SpellsPoints.escape
    {text : List Char} {points : List Nat} (later : SpellsPoints text points)
    (character : Char) :
    SpellsPoints (escape character ++ text) (character.toNat :: points) := by
  rw [Json.escape]
  split_ifs with isQuote isBackslash isBackspace isTab isLineFeed isFormFeed isReturn isControl
  · rw [isQuote]
    exact .short rfl later
  · rw [isBackslash]
    exact .short rfl later
  · rw [isBackspace]
    exact .short rfl later
  · rw [isTab]
    exact .short rfl later
  · rw [isLineFeed]
    exact .short rfl later
  · rw [isFormFeed]
    exact .short rfl later
  · rw [isReturn]
    exact .short rfl later
  · exact .code (hexValue4?_hexDigit character.toNat isControl) later
  · exact .plain isQuote isBackslash (Nat.not_lt.1 isControl) later

theorem spellsPoints_flatMap_escape (text : List Char) :
    SpellsPoints (text.flatMap escape ++ ['"']) (text.map Char.toNat) := by
  induction text with
  | nil => exact .close
  | cons first rest hypothesis =>
      rw [List.flatMap_cons, List.append_assoc, List.map_cons]
      exact hypothesis.escape first

/-- No character is half of a surrogate pair. -/
theorem not_surrogate (character : Char) :
    isHighSurrogate character.toNat = false ∧ isLowSurrogate character.toNat = false := by
  have valid : character.toNat < 0xD800 ∨
      (0xDFFF < character.toNat ∧ character.toNat < 0x110000) :=
    character.valid
  simp only [isHighSurrogate, isLowSurrogate, Bool.and_eq_false_iff, decide_eq_false_iff_not]
  omega

theorem decodePoints?_cons (character : Char) (points : List Nat) :
    decodePoints? (character.toNat :: points) =
      (decodePoints? points).map (character :: ·) := by
  rcases not_surrogate character with ⟨notHigh, notLow⟩
  cases points with
  | nil => simp [decodePoints?, notHigh, notLow]
  | cons second rest => simp [decodePoints?, notHigh, notLow]

theorem decodePoints?_map_toNat (text : List Char) :
    decodePoints? (text.map Char.toNat) = some text := by
  induction text with
  | nil => rfl
  | cons first rest hypothesis =>
      rw [List.map_cons, decodePoints?_cons, hypothesis, Option.map_some]

/-- A string spells the text whose code points it spells. -/
theorem SpellsPoints.spellsString
    {body : List Char} {text : String} (spelled : SpellsPoints body (text.toList.map Char.toNat)) :
    SpellsString ('"' :: body) (some text) := by
  refine ⟨body, _, rfl, spelled, ?_⟩
  rw [decodePoints?_map_toNat, Option.map_some, String.ofList_toList]

/-- A text in quotes spells the text. -/
theorem spellsString_quote (text : String) : SpellsString (quote text) (some text) :=
  (spellsPoints_flatMap_escape text.toList).spellsString

/-- The writer's text for what denotes no text spells half of a surrogate pair. -/
theorem spellsString_undecodable : SpellsString (compact .undecodable) none :=
  ⟨_, [0xD800], rfl, .code rfl .close, rfl⟩

theorem spellsKey_quote (key : String) : SpellsKey (quote key ++ [':']) (some key) :=
  ⟨quote key, [], [], rfl, spellsString_quote key, isGap_nil, isGap_nil⟩

/-! ## Values -/

theorem objectOf_some (members : List (String × Json)) :
    objectOf (members.map fun member => (some member.1, member.2)) = .object members := by
  simp [objectOf, List.filterMap_map, Function.comp_def]

theorem spells_compactItems
    {first : Json} {later : List Json}
    (each : ∀ item ∈ first :: later, Spells (compact item) (.value item)) :
    Spells (compact first ++ (compactItems later ++ [']'])) (.items (first :: later)) := by
  induction later generalizing first with
  | nil => exact .lastItem (each first List.mem_cons_self) isGap_nil
  | cons second later hypothesis =>
      have others := hypothesis fun item member => each item (List.mem_cons_of_mem first member)
      rw [compactItems]
      simp only [List.cons_append, List.append_assoc]
      have spelled := Spells.item (each first List.mem_cons_self) isGap_nil isGap_nil others
      exact spelled

theorem spells_compactMembers
    {first : String × Json} {later : List (String × Json)}
    (each : ∀ member ∈ first :: later, Spells (compact member.2) (.value member.2)) :
    Spells (quote first.1 ++ [':'] ++ (compact first.2 ++ (compactMembers later ++ ['\x7d'])))
      (.members ((first :: later).map fun member => (some member.1, member.2))) := by
  induction later generalizing first with
  | nil =>
      exact .lastMember (spellsKey_quote first.1) (each first List.mem_cons_self) isGap_nil
  | cons second later hypothesis =>
      have others := hypothesis fun item member => each item (List.mem_cons_of_mem first member)
      have separated : compactMembers (second :: later) ++ ['\x7d'] =
          ',' :: (quote second.1 ++ [':'] ++
            (compact second.2 ++ (compactMembers later ++ ['\x7d']))) := by
        simp [compactMembers]
      have spelled := Spells.member (spellsKey_quote first.1) (each first List.mem_cons_self)
        isGap_nil isGap_nil others
      rw [separated]
      exact spelled

/-- The compact form of a value is a text of the value. -/
theorem WellFormed.spells_compact {value : Json} (wellFormed : WellFormed value) :
    Spells (compact value) (.value value) := by
  induction wellFormed with
  | null => exact .null
  | bool value =>
      cases value with
      | false => exact .no
      | true => exact .yes
  | @number text isNumber =>
      have spelled := Spells.number isNumber
      rwa [String.ofList_toList] at spelled
  | string text => exact .string (spellsString_quote text)
  | @array items each hypothesis =>
      cases items with
      | nil => exact .emptyArray isGap_nil
      | cons first later =>
          have spelled := Spells.array isGap_nil (spells_compactItems hypothesis)
          rw [compact, List.append_assoc]
          exact spelled
  | @object members each hypothesis =>
      cases members with
      | nil => exact .emptyObject isGap_nil
      | cons first later =>
          have spelled := Spells.object isGap_nil (spells_compactMembers hypothesis)
          rw [objectOf_some] at spelled
          have whole : compact (.object (first :: later)) = '\x7b' :: (quote first.1 ++ [':'] ++
              (compact first.2 ++ (compactMembers later ++ ['\x7d']))) := by
            rcases first with ⟨key, value⟩
            simp [compact]
          rw [whole]
          exact spelled
  | undecodable => exact .undecodable spellsString_undecodable

/-! ## Indented values -/

theorem isGap_newLine (depth : Nat) : IsGap (newLine depth) := by
  intro character member
  rcases List.mem_cons.1 member with rfl | inIndentation
  · rfl
  · rw [(List.mem_replicate.1 inIndentation).2]
    rfl

theorem spellsKey_quote_space (key : String) : SpellsKey (quote key ++ [':', ' ']) (some key) :=
  ⟨quote key, [], [' '], rfl, spellsString_quote key, isGap_nil, by simp [IsGap, isSpace]⟩

theorem spells_indentedItems
    {first : Json} {later : List Json} {depth : Nat}
    (each : ∀ item ∈ first :: later, Spells (indented depth item) (.value item))
    (outer : Nat) :
    Spells (indented depth first ++ (indentedItems depth later ++ (newLine outer ++ [']'])))
      (.items (first :: later)) := by
  induction later generalizing first with
  | nil => exact .lastItem (each first List.mem_cons_self) (isGap_newLine outer)
  | cons second later hypothesis =>
      have others := hypothesis fun item member => each item (List.mem_cons_of_mem first member)
      have spelled := Spells.item (each first List.mem_cons_self) isGap_nil (isGap_newLine depth)
        others
      simpa [indentedItems] using spelled

theorem spells_indentedMembers
    {first : String × Json} {later : List (String × Json)} {depth : Nat}
    (each : ∀ member ∈ first :: later, Spells (indented depth member.2) (.value member.2))
    (outer : Nat) :
    Spells (quote first.1 ++ [':', ' '] ++
        (indented depth first.2 ++ (indentedMembers depth later ++ (newLine outer ++ ['\x7d']))))
      (.members ((first :: later).map fun member => (some member.1, member.2))) := by
  induction later generalizing first with
  | nil =>
      exact .lastMember (spellsKey_quote_space first.1) (each first List.mem_cons_self)
        (isGap_newLine outer)
  | cons second later hypothesis =>
      rcases second with ⟨key, value⟩
      have others := hypothesis fun item member => each item (List.mem_cons_of_mem first member)
      have spelled := Spells.member (spellsKey_quote_space first.1) (each first List.mem_cons_self)
        isGap_nil (isGap_newLine depth) others
      simpa [indentedMembers] using spelled

/-- The indented form of a value is a text of the value, at every depth. -/
theorem WellFormed.spells_indented {value : Json} (wellFormed : WellFormed value) :
    ∀ depth, Spells (indented depth value) (.value value) := by
  induction wellFormed with
  | null =>
      intro depth
      exact WellFormed.null.spells_compact
  | bool value =>
      intro depth
      cases value <;> exact (WellFormed.bool _).spells_compact
  | number isNumber =>
      intro depth
      exact (WellFormed.number isNumber).spells_compact
  | string text =>
      intro depth
      exact (WellFormed.string text).spells_compact
  | undecodable =>
      intro depth
      exact WellFormed.undecodable.spells_compact
  | @array items each hypothesis =>
      intro depth
      cases items with
      | nil => exact .emptyArray isGap_nil
      | cons first later =>
          have items := spells_indentedItems
            (fun item member => hypothesis item member (depth + 1)) depth
          have spelled := Spells.array (isGap_newLine (depth + 1)) items
          simpa [indented] using spelled
  | @object members each hypothesis =>
      intro depth
      cases members with
      | nil => exact .emptyObject isGap_nil
      | cons first later =>
          have members := spells_indentedMembers
            (fun member listed => hypothesis member listed (depth + 1)) depth
          have spelled := Spells.object (isGap_newLine (depth + 1)) members
          rw [objectOf_some] at spelled
          rcases first with ⟨key, value⟩
          simpa [indented] using spelled

/-! ## Reading back -/

/-- A text of a value needs no blanks around it. -/
theorem Spells.isText {text : List Char} {value : Json} (spelled : Spells text (.value value)) :
    IsText text value :=
  ⟨[], text, [], (List.append_nil text).symm, isGap_nil, isGap_nil, spelled⟩

/-- What is written of a value in either layout is a text of the value. -/
theorem WellFormed.isText_write {value : Json} (wellFormed : WellFormed value) (pretty : Bool) :
    IsText (write pretty value).toList value := by
  rw [write, String.toList_ofList]
  cases pretty with
  | false => exact wellFormed.spells_compact.isText
  | true => exact (wellFormed.spells_indented 0).isText

/-- The compact form of a value reads back as the value. -/
theorem WellFormed.read?_compact {value : Json} (wellFormed : WellFormed value) :
    read? (compact value) = some value :=
  read?_of_isText wellFormed.spells_compact.isText

/-- Values are told apart by their compact forms. -/
theorem WellFormed.eq_of_compact_eq
    {value other : Json} (wellFormed : WellFormed value) (otherWellFormed : WellFormed other)
    (same : compact value = compact other) :
    value = other := by
  have read := wellFormed.read?_compact
  rw [same, otherWellFormed.read?_compact] at read
  exact (Option.some.inj read).symm

end FindQuery.Json
