import FindQuery.Proofs.Json.Writer
import FindQuery.Settings
import Mathlib.Data.Finset.Dedup
import Mathlib.Data.Finset.Insert

/-!
# Settings from documents

A document that is an object gives values to some of the settings, in any order, in any
spelling and among members of other names.  The settings loaded from it have these values and
keep the standard ones otherwise.
-/

namespace FindQuery.Settings

/-- What a document can give a value to. -/
inductive Key where
  | zone
  | pretty
  | historyFile
  | logFilter
  deriving DecidableEq, Repr

/-- The key of a setting in a document. -/
def Key.name : Key → String
  | zone => "timezone"
  | pretty => "pretty"
  | historyFile => "history_file"
  | logFilter => "log_filter"

theorem Key.name_injective : Function.Injective Key.name := by
  intro key other same
  cases key <;> cases other <;> first | rfl | exact absurd same (by decide)

/-- The value of a setting as it stands in a document. -/
def valueOf (settings : Settings) : Key → Json
  | .zone => .string settings.zone.name
  | .pretty => .bool settings.pretty
  | .historyFile => settings.historyFile.elim .null .string
  | .logFilter => .string settings.logFilter

/-- The standard settings but for the chosen ones. -/
def standardExcept (chosen : Finset Key) (settings : Settings) : Settings where
  zone := if .zone ∈ chosen then settings.zone else standard.zone
  pretty := if .pretty ∈ chosen then settings.pretty else standard.pretty
  historyFile := if .historyFile ∈ chosen then settings.historyFile else standard.historyFile
  logFilter := if .logFilter ∈ chosen then settings.logFilter else standard.logFilter

theorem standardExcept_eq_self {chosen : Finset Key} (whole : ∀ key, key ∈ chosen)
    (settings : Settings) :
    standardExcept chosen settings = settings := by
  simp only [standardExcept, whole, if_true]

/-! ## Single values -/

theorem zone?_name (zone : Zone) : zone? (.string zone.name) = some zone := by
  cases zone <;> rfl

theorem optionalString?_elim (text : Option String) :
    optionalString? (text.elim .null .string) = some text := by
  cases text <;> rfl

/-- A value that may be missing is decoded where it is present. -/
theorem decodeOr_ite
    {Value : Type} {decode? : Json → Option Value} {json : Json} {value : Value}
    (decoded : decode? json = some value) (standard : Value) (present : Prop)
    [Decidable present] :
    decodeOr standard decode? (if present then some json else none) =
      some (if present then value else standard) := by
  split
  · exact decoded
  · rfl

/-! ## Members -/

/--
Members with keys of their own that give the chosen settings their values.  They give the
other settings none; what members of other names hold is left open.
-/
structure Holds
    (members : List (String × Json)) (settings : Settings) (chosen : Finset Key) : Prop where
  distinct : (members.map Prod.fst).Nodup
  values : ∀ key value,
    (key.name, value) ∈ members ↔ key ∈ chosen ∧ value = settings.valueOf key

variable {members : List (String × Json)} {key : String} {value : Json}

theorem valuesOf_cons (first : String × Json) (later : List (String × Json)) :
    valuesOf key (first :: later) =
      if first.1 = key then first.2 :: valuesOf key later else valuesOf key later := by
  by_cases same : first.1 = key <;> simp [valuesOf, same]

theorem valuesOf_eq_nil (absent : key ∉ members.map Prod.fst) : valuesOf key members = [] := by
  rw [valuesOf, List.map_eq_nil_iff, List.filter_eq_nil_iff]
  intro member listed same
  exact absent (List.mem_map.2 ⟨member, listed, beq_iff_eq.1 same⟩)

/-- A key of its own has the value of its member. -/
theorem valuesOf_eq_singleton
    (distinct : (members.map Prod.fst).Nodup) (listed : (key, value) ∈ members) :
    valuesOf key members = [value] := by
  induction members with
  | nil => cases listed
  | cons first later hypothesis =>
      rcases List.nodup_cons.1 distinct with ⟨fresh, others⟩
      rw [valuesOf_cons]
      rcases List.mem_cons.1 listed with rfl | inLater
      · rw [if_pos rfl, valuesOf_eq_nil fresh]
      · have other : first.1 ≠ key := by
          rintro rfl
          exact fresh (List.mem_map.2 ⟨_, inLater, rfl⟩)
        rw [if_neg other, hypothesis others inLater]

theorem Holds.member?_eq
    {settings : Settings} {chosen : Finset Key} (holds : Holds members settings chosen)
    (key : Key) :
    member? key.name members =
      some (if key ∈ chosen then some (settings.valueOf key) else none) := by
  by_cases isChosen : key ∈ chosen
  · have listed := (holds.values key (settings.valueOf key)).2 ⟨isChosen, rfl⟩
    rw [if_pos isChosen, member?, valuesOf_eq_singleton holds.distinct listed]
  · have absent : key.name ∉ members.map Prod.fst := by
      intro inKeys
      rcases List.mem_map.1 inKeys with ⟨⟨name, value⟩, listed, rfl⟩
      exact isChosen ((holds.values key value).1 listed).1
    rw [if_neg isChosen, member?, valuesOf_eq_nil absent]

/-- The settings that an object holds are the standard ones but for those it gives. -/
theorem Holds.ofJson?_eq
    {settings : Settings} {chosen : Finset Key} (holds : Holds members settings chosen) :
    ofJson? (.object members) = some (standardExcept chosen settings) := by
  have zone := holds.member?_eq .zone
  have pretty := holds.member?_eq .pretty
  have historyFile := holds.member?_eq .historyFile
  have logFilter := holds.member?_eq .logFilter
  simp only [Key.name, valueOf] at zone pretty historyFile logFilter
  have prettyRead : bool? (.bool settings.pretty) = some settings.pretty := rfl
  have filterRead : string? (.string settings.logFilter) = some settings.logFilter := rfl
  have zoneDecoded := decodeOr_ite (zone?_name settings.zone) standard.zone (.zone ∈ chosen)
  have prettyDecoded := decodeOr_ite prettyRead standard.pretty (.pretty ∈ chosen)
  have historyDecoded := decodeOr_ite (optionalString?_elim settings.historyFile)
    standard.historyFile (.historyFile ∈ chosen)
  have filterDecoded := decodeOr_ite filterRead standard.logFilter (.logFilter ∈ chosen)
  simp only [ofJson?, zone, pretty, historyFile, logFilter, ofValues?, zoneDecoded,
    prettyDecoded, historyDecoded, filterDecoded, Option.bind_eq_bind, Option.bind_some,
    Option.pure_def, standardExcept]

/-! ## Files -/

theorem fromUTF8?_toUTF8 (text : String) : String.fromUTF8? text.toUTF8 = some text :=
  dif_pos text.isValidUTF8

/-- A file with a text of a value that holds settings is loaded. -/
theorem load_eq_ok
    {text : String} {json : Json} {settings : Settings} (isText : Json.IsText text.toList json)
    (decoded : ofJson? json = some settings) (path : String) :
    load path (.content text.toUTF8) = .ok settings := by
  rw [load, fromUTF8?_toUTF8]
  simp only [Json.read?_of_isText isText, Option.bind_some, decoded]

/--
A file with an object gives the settings that the object holds, and the standard ones
otherwise, however the object is spelled and whatever else it holds.
-/
theorem load_of_holds
    {text : String} {settings : Settings} {chosen : Finset Key}
    (isText : Json.IsText text.toList (.object members)) (holds : Holds members settings chosen)
    (path : String) :
    load path (.content text.toUTF8) = .ok (standardExcept chosen settings) :=
  load_eq_ok isText holds.ofJson?_eq path

/-- Two settings out of order, and between them a member of another name. -/
def quietMembers : List (String × Json) :=
  [("log_filter", .string "off"), ("theme", .array [.undecodable, .number "1e3"]),
    ("timezone", .string "utc")]

/-- A text of these members with blanks, an escaped letter and half of a surrogate pair. -/
def quietText : String :=
  "\n\x7b\"log_filter\" : \"\\u006Fff\",\t\"theme\":[\"\\ud800\",1e3],\"timezone\":\"utc\"\x7d"

theorem isText_quietText : Json.IsText quietText.toList (.object quietMembers) := by
  have space : Json.IsGap [' '] := by decide
  have tab : Json.IsGap ['\t'] := by decide
  have filterKey : Json.SpellsKey (Json.quote "log_filter" ++ " : ".toList) (some "log_filter") :=
    ⟨_, [' '], [' '], rfl, Json.spellsString_quote "log_filter", space, space⟩
  have letters : Json.SpellsPoints "\\u006Fff\"".toList ("off".toList.map Char.toNat) :=
    .code rfl (.plain (by decide) (by decide) (by decide)
      (.plain (by decide) (by decide) (by decide) .close))
  have number : Json.IsNumber "1e3".toList :=
    ⟨[], ['1'], [], ['e', '3'], rfl, .inl rfl, .inr ⟨by decide, by decide⟩, .inl rfl,
      .inr ⟨'e', [], ['3'], rfl, .inl rfl, .inl rfl, by decide⟩⟩
  have theme : Json.WellFormed (.array [.undecodable, .number "1e3"]) := by
    apply Json.WellFormed.array
    simp [Json.WellFormed.undecodable, Json.WellFormed.number number]
  have zone := Json.Spells.lastMember (Json.spellsKey_quote "timezone")
    (.string (Json.spellsString_quote "utc")) Json.isGap_nil
  have members := Json.Spells.member filterKey (.string letters.spellsString) Json.isGap_nil tab
    (.member (Json.spellsKey_quote "theme") theme.spells_compact Json.isGap_nil Json.isGap_nil zone)
  have spelled := Json.Spells.object Json.isGap_nil members
  refine ⟨['\n'], _, [], ?_, by decide, Json.isGap_nil, spelled⟩
  decide

theorem holds_quietMembers :
    Holds quietMembers ⟨.universal, false, some "~/π", "off"⟩ {.zone, .logFilter} := by
  constructor
  case distinct => decide
  case values =>
    intro key value
    cases key <;> simp [quietMembers, Key.name, valueOf, Zone.name]

/-- Two settings are given and two keep their standard values. -/
theorem load_quietText :
    Json.IsText quietText.toList (.object quietMembers) ∧
      Holds quietMembers ⟨.universal, false, some "~/π", "off"⟩ {.zone, .logFilter} ∧
        load "findql.json" (.content quietText.toUTF8) =
          .ok ⟨.universal, true, none, "off"⟩ :=
  ⟨isText_quietText, holds_quietMembers,
    load_of_holds isText_quietText holds_quietMembers "findql.json"⟩

/-! ## Written documents -/

/-- The members that give some of the settings their values. -/
def membersOf (keys : List Key) (settings : Settings) : List (String × Json) :=
  keys.map fun key => (key.name, settings.valueOf key)

theorem holds_membersOf {keys : List Key} (distinct : keys.Nodup) (settings : Settings) :
    Holds (membersOf keys settings) settings keys.toFinset := by
  constructor
  case distinct =>
    rw [membersOf, List.map_map]
    exact distinct.map Key.name_injective
  case values =>
    intro key value
    simp [membersOf, Key.name_injective.eq_iff, eq_comm]

theorem wellFormed_valueOf (settings : Settings) (key : Key) :
    Json.WellFormed (settings.valueOf key) := by
  rcases settings with ⟨zone, pretty, historyFile, logFilter⟩
  cases key with
  | zone => exact .string zone.name
  | pretty => exact .bool pretty
  | historyFile =>
      cases historyFile with
      | none => exact .null
      | some path => exact .string path
  | logFilter => exact .string logFilter

theorem wellFormed_membersOf (keys : List Key) (settings : Settings) :
    Json.WellFormed (.object (membersOf keys settings)) := by
  apply Json.WellFormed.object
  intro member listed
  rcases List.mem_map.1 listed with ⟨key, -, rfl⟩
  exact wellFormed_valueOf settings key

/-- Settings written to a file in full, in any order and either layout, are loaded from it. -/
theorem load_write
    {keys : List Key} (distinct : keys.Nodup) (whole : ∀ key, key ∈ keys) (settings : Settings)
    (pretty : Bool) (path : String) :
    load path (.content (Json.write pretty (.object (membersOf keys settings))).toUTF8) =
      .ok settings := by
  have isText := (wellFormed_membersOf keys settings).isText_write pretty
  have decoded := (holds_membersOf distinct settings).ofJson?_eq
  rw [standardExcept_eq_self fun key => List.mem_toFinset.2 (whole key)] at decoded
  exact load_eq_ok isText decoded path

end FindQuery.Settings
