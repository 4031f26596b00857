import FindQuery.Proofs.Json.Layout
import FindQuery.Proofs.Number.Padded
import FindQuery.Query.Document
import Mathlib.Data.List.Basic

/-!
# Documents of queries

A document holds all that its query does: names of kinds and tags tell them apart, numbers read
back from their digits, and every part of a query has a member of its own.  Documents are told
apart by their compact texts, and an indented text is the compact one with blanks between the
lexemes; so no two queries have one text, in either layout.
-/

namespace FindQuery

open FindQuery.Json
open FindQuery.Number

/-! ## Digits -/

theorem isDigits_naturalText (number : Nat) : IsDigits (naturalText number) := by
  induction number using Nat.strongRecOn with
  | ind number hypothesis =>
      rw [naturalText]
      split
      · rename_i small
        exact ⟨List.cons_ne_nil _ _, by simpa using isDigit_digitOf small⟩
      · rcases hypothesis (number / 10) (by omega) with ⟨-, digits⟩
        have last : (digitOf (number % 10)).isDigit = true :=
          isDigit_digitOf (Nat.mod_lt number (by decide))
        refine ⟨by simp, ?_⟩
        simpa [or_imp, forall_and] using ⟨digits, last⟩

/-- Only zero has a text that starts with a zero. -/
theorem head?_naturalText_ne_zero {number : Nat} (positive : number ≠ 0) :
    (naturalText number).head? ≠ some '0' := by
  induction number using Nat.strongRecOn with
  | ind number hypothesis =>
      rw [naturalText]
      split
      · rename_i small
        have nonzero : ∀ digit < 10, digit ≠ 0 → digitOf digit ≠ '0' := by
          decide
        simpa using nonzero number small positive
      · have leading := hypothesis (number / 10) (by omega) (by omega)
        rcases (isDigits_naturalText (number / 10)).exists_head with ⟨first, later, same, -⟩
        rw [same] at leading ⊢
        exact leading

theorem isWhole_naturalText (number : Nat) : IsWhole (naturalText number) := by
  by_cases positive : number = 0
  · rw [positive, naturalText]
    exact .inl rfl
  · exact .inr ⟨isDigits_naturalText number, head?_naturalText_ne_zero positive⟩

theorem naturalText_injective : Function.Injective naturalText :=
  Function.LeftInverse.injective digitsValue_naturalText

theorem natural?_naturalText (number : Nat) : natural? (naturalText number) = some number := by
  rcases isDigits_naturalText number with ⟨nonempty, digits⟩
  have isNumeral : isNumeral (naturalText number) = true := by
    rw [Number.isNumeral, Bool.and_eq_true, List.all_eq_true]
    exact ⟨by simpa using nonempty, digits⟩
  rw [natural?, if_pos isNumeral, digitsValue_naturalText]

/-- An integer reads back from its text. -/
theorem integer?_integerText (number : Int) : integer? (integerText number) = some number := by
  rw [integerText]
  split
  · rename_i negative
    rw [integer?, natural?_naturalText]
    show some (-(number.natAbs : Int)) = some number
    exact congrArg some (by omega)
  · rename_i notNegative
    rcases (isDigits_naturalText number.natAbs).exists_head with ⟨first, later, same, isDigit⟩
    have read := natural?_naturalText number.natAbs
    rw [same] at read ⊢
    rw [integer?, read]
    · show some (number.natAbs : Int) = some number
      exact congrArg some (by omega)
    · rintro digits signed
      cases signed
      cases isDigit
    · rintro digits signed
      cases signed
      cases isDigit

theorem integerText_injective : Function.Injective integerText := by
  intro number other same
  have read := integer?_integerText number
  rw [same, integer?_integerText] at read
  exact (Option.some.inj read).symm

theorem Json.ofNat_injective : Function.Injective Json.ofNat := by
  intro number other same
  injection same with sameText
  exact naturalText_injective (String.ofList_injective sameText)

theorem Json.ofInt_injective : Function.Injective Json.ofInt := by
  intro number other same
  injection same with sameText
  exact integerText_injective (String.ofList_injective sameText)

theorem Json.wellFormed_ofNat (number : Nat) : WellFormed (Json.ofNat number) := by
  apply WellFormed.number
  rw [String.toList_ofList]
  exact ⟨[], naturalText number, [], [], by simp, .inl rfl, isWhole_naturalText number,
    .inl rfl, .inl rfl⟩

theorem Json.wellFormed_ofInt (number : Int) : WellFormed (Json.ofInt number) := by
  apply WellFormed.number
  rw [String.toList_ofList, integerText]
  split
  · exact ⟨['-'], naturalText number.natAbs, [], [], by simp, .inr rfl, isWhole_naturalText _,
      .inl rfl, .inl rfl⟩
  · exact ⟨[], naturalText number.natAbs, [], [], by simp, .inl rfl, isWhole_naturalText _,
      .inl rfl, .inl rfl⟩

/-! ## Names -/

theorem ValueKind.name_injective : Function.Injective ValueKind.name := by
  intro kind other same
  cases kind <;> cases other <;> first | rfl | exact absurd same (by decide)

theorem Comparison.name_injective : Function.Injective Comparison.name := by
  intro comparison other same
  cases comparison <;> cases other <;> first | rfl | exact absurd same (by decide)

theorem Kind.name_injective : Function.Injective Kind.name := by
  intro kind other same
  have found := Kind.ofName?_name kind
  rw [same, Kind.ofName?_name] at found
  exact (Option.some.inj found).symm

/-- The tag with a given key. -/
def Tag.ofKey? (text : String) : Option Tag :=
  every.find? fun tag => tag.key == text

theorem Tag.ofKey?_key (tag : Tag) : ofKey? tag.key = some tag := by
  cases tag <;> rfl

theorem Tag.key_injective : Function.Injective Tag.key := by
  intro tag other same
  have found := Tag.ofKey?_key tag
  rw [same, Tag.ofKey?_key] at found
  exact (Option.some.inj found).symm

/-! ## Parts of queries -/

/-- The items of a list are told apart in its array. -/
theorem array_map_injective
    {Item : Type} {toJson : Item → Json} (apart : Function.Injective toJson) :
    Function.Injective fun items : List Item => Json.array (items.map toJson) := by
  intro items others same
  injection same with sameItems
  exact List.map_injective_iff.2 apart sameItems

theorem wellFormed_array_map
    {Item : Type} {toJson : Item → Json} (each : ∀ item, WellFormed (toJson item))
    (items : List Item) :
    WellFormed (.array (items.map toJson)) := by
  apply WellFormed.array
  intro value member
  rcases List.mem_map.1 member with ⟨item, -, rfl⟩
  exact each item

theorem Field.toJson_injective : Function.Injective Field.toJson := by
  rintro ⟨name, label⟩ ⟨otherName, otherLabel⟩ same
  simpa [Field.toJson] using same

theorem Field.wellFormed_toJson (field : Field) : WellFormed field.toJson := by
  apply WellFormed.object
  simp [WellFormed.string]

theorem Value.toJson_injective : Function.Injective Value.toJson := by
  rintro ⟨kind, raw⟩ ⟨otherKind, otherRaw⟩ same
  simpa [Value.toJson, ValueKind.name_injective.eq_iff] using same

theorem Value.wellFormed_toJson (value : Value) : WellFormed value.toJson := by
  apply WellFormed.object
  simp [WellFormed.string]

theorem Predicate.toJson_injective : Function.Injective Predicate.toJson := by
  rintro ⟨left, comparison, right⟩ ⟨otherLeft, otherComparison, otherRight⟩ same
  simpa [Predicate.toJson, Value.toJson_injective.eq_iff, Comparison.name_injective.eq_iff]
    using same

theorem Predicate.wellFormed_toJson (predicate : Predicate) : WellFormed predicate.toJson := by
  apply WellFormed.object
  simp [WellFormed.string, Value.wellFormed_toJson]

/-- The document of a group of predicates. -/
def groupJson (group : List Predicate) : Json :=
  .object [("predicates", .array (group.map Predicate.toJson))]

theorem groupJson_injective : Function.Injective groupJson := by
  intro group other same
  apply array_map_injective Predicate.toJson_injective
  simpa [groupJson] using same

theorem wellFormed_groupJson (group : List Predicate) : WellFormed (groupJson group) := by
  apply WellFormed.object
  simpa using wellFormed_array_map Predicate.wellFormed_toJson group

theorem Condition.toJson_eq (condition : Condition) :
    condition.toJson = .object [("groups", .array (condition.groups.map groupJson))] :=
  rfl

theorem Condition.toJson_injective : Function.Injective Condition.toJson := by
  rintro ⟨groups⟩ ⟨otherGroups⟩ same
  rw [toJson_eq, toJson_eq] at same
  have sameGroups : groups = otherGroups := by
    apply array_map_injective groupJson_injective
    simpa using same
  rw [sameGroups]

theorem Condition.wellFormed_toJson (condition : Condition) : WellFormed condition.toJson := by
  rw [toJson_eq]
  apply WellFormed.object
  simpa using wellFormed_array_map wellFormed_groupJson condition.groups

theorem Time.TimeRange.toJson_injective : Function.Injective Time.TimeRange.toJson := by
  rintro ⟨start, stop⟩ ⟨otherStart, otherStop⟩ same
  simpa [toJson, Json.ofInt_injective.eq_iff] using same

theorem Time.TimeRange.wellFormed_toJson (range : Time.TimeRange) : WellFormed range.toJson := by
  apply WellFormed.object
  simp [Json.wellFormed_ofInt]

theorem Span.toJson_injective : Function.Injective Span.toJson := by
  rintro ⟨start, stop⟩ ⟨otherStart, otherStop⟩ same
  simpa [toJson, Json.ofNat_injective.eq_iff] using same

theorem Span.wellFormed_toJson (span : Span) : WellFormed span.toJson := by
  apply WellFormed.object
  simp [Json.wellFormed_ofNat]

theorem Token.toJson_injective : Function.Injective Token.toJson := by
  rintro ⟨kind, tag, text, span⟩ ⟨otherKind, otherTag, otherText, otherSpan⟩ same
  simpa [toJson, Kind.name_injective.eq_iff, Tag.key_injective.eq_iff,
    Span.toJson_injective.eq_iff] using same

theorem Token.wellFormed_toJson (token : Token) : WellFormed token.toJson := by
  apply WellFormed.object
  simp [WellFormed.string, Span.wellFormed_toJson]

/-! ## Queries -/

namespace Query

/-- No condition is told apart from each condition. -/
theorem optionalCondition_injective :
    Function.Injective fun condition : Option Condition =>
      (condition.map Condition.toJson).getD .null := by
  intro condition other same
  cases condition with
  | none =>
      cases other with
      | none => rfl
      | some otherCondition => cases same
  | some condition =>
      cases other with
      | none => cases same
      | some otherCondition => exact congrArg some (Condition.toJson_injective same)

/-- Queries are told apart by their documents. -/
theorem toJson_injective : Function.Injective toJson := by
  rintro ⟨fields, all, condition, range, remainder⟩
    ⟨otherFields, otherAll, otherCondition, otherRange, otherRemainder⟩ same
  simp only [toJson, Json.object.injEq, List.cons.injEq, Prod.mk.injEq, true_and,
    Json.bool.injEq, Time.TimeRange.toJson_injective.eq_iff,
    (array_map_injective Field.toJson_injective).eq_iff,
    (array_map_injective Token.toJson_injective).eq_iff] at same
  rcases same with ⟨sameFields, sameAll, sameCondition, sameRange, sameRemainder, -⟩
  rw [sameFields, sameAll, optionalCondition_injective sameCondition, sameRange, sameRemainder]

theorem wellFormed_toJson (query : Query) : WellFormed query.toJson := by
  have condition : WellFormed ((query.condition.map Condition.toJson).getD .null) := by
    cases query.condition with
    | none => exact .null
    | some condition => exact condition.wellFormed_toJson
  apply WellFormed.object
  simp only [List.forall_mem_cons]
  exact ⟨wellFormed_array_map Field.wellFormed_toJson query.fields, .bool query.all, condition,
    query.range.wellFormed_toJson, wellFormed_array_map Token.wellFormed_toJson query.remainder,
    by simp⟩

theorem toList_write (query : Query) (pretty : Bool) :
    (query.write pretty).toList =
      if pretty = true then indented 0 query.toJson else compact query.toJson :=
  String.toList_ofList

/-- The indented text of a query without the blanks outside its strings is the compact one. -/
theorem squeeze_write_pretty (query : Query) :
    squeeze (query.write true).toList = (query.write false).toList := by
  rw [toList_write, toList_write]
  exact query.wellFormed_toJson.squeeze_indented 0

theorem write_compact_injective : Function.Injective fun query : Query => query.write false := by
  intro query other same
  have sameText := congrArg String.toList same
  simp only [toList_write] at sameText
  exact toJson_injective
    (query.wellFormed_toJson.eq_of_compact_eq other.wellFormed_toJson sameText)

/--
The text of a query loses nothing.  In each layout queries are told apart by their texts; the
compact text holds no control character, so it is one line; and the indented text without the
blanks outside its strings is the compact text.
-/
theorem write_lossless :
    (∀ pretty, Function.Injective fun query : Query => query.write pretty) ∧
      ∀ query : Query,
        (∀ character ∈ (query.write false).toList, 32 ≤ character.toNat) ∧
          squeeze (query.write true).toList = (query.write false).toList := by
  refine ⟨?_, ?_⟩
  · intro pretty
    cases pretty with
    | false => exact write_compact_injective
    | true =>
        intro query other same
        have squeezed := congrArg (fun text : String => squeeze text.toList) same
        simp only [squeeze_write_pretty] at squeezed
        exact write_compact_injective (String.toList_injective squeezed)
  · intro query
    refine ⟨?_, squeeze_write_pretty query⟩
    rw [toList_write]
    exact query.wellFormed_toJson.le_toNat_compact

end Query

end FindQuery
