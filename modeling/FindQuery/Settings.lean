import FindQuery.Json.Reader

/-!
# Settings of the shell

Settings are read from a JSON document.  An object names those that differ from
the defaults, each at most once, and may hold other keys; an array lists them in
order and may be short.
-/

namespace FindQuery

/-- The clock that references to time are read on. -/
inductive Zone where
  /-- The clock of the machine. -/
  | machine
  /-- Universal time. -/
  | universal
  deriving DecidableEq, Repr, Inhabited

/-- The name of a zone in a document. -/
def Zone.name : Zone → String
  | machine => "local"
  | universal => "utc"

/-- What the user can choose about the shell. -/
structure Settings where
  zone : Zone
  /-- Whether queries are printed with indentation. -/
  pretty : Bool
  /-- Where the prompt keeps its history; it keeps none without a path. -/
  historyFile : Option String
  /-- What the log lets through. -/
  logFilter : String
  deriving DecidableEq, Repr, Inhabited

namespace Settings

/-- The settings without a document. -/
def standard : Settings :=
  ⟨.machine, true, none, "warn"⟩

/-- The zone with a given name. -/
def zoneOfName? (name : String) : Option Zone :=
  if name = Zone.machine.name then
    some .machine
  else if name = Zone.universal.name then
    some .universal
  else
    none

/-- A zone is its name, or an object whose only member has that name and no value. -/
def zone? : Json → Option Zone
  | .string name => zoneOfName? name
  | .object [(name, .null)] => zoneOfName? name
  | _ => none

/-- A truth value. -/
def bool? : Json → Option Bool
  | .bool value => some value
  | _ => none

/-- A text. -/
def string? : Json → Option String
  | .string text => some text
  | _ => none

/-- A text, or nothing. -/
def optionalString? : Json → Option (Option String)
  | .null => some none
  | .string text => some (some text)
  | _ => none

/-- The value of a setting that may be missing. -/
def decodeOr {Value : Type} (standard : Value) (decode? : Json → Option Value) :
    Option Json → Option Value
  | none => some standard
  | some json => decode? json

/-- The values of all members with a given key. -/
def valuesOf (key : String) (members : List (String × Json)) : List Json :=
  (members.filter (·.1 == key)).map Prod.snd

/-- The value of the only member with a given key, if there is one; refuses several. -/
def member? (key : String) (members : List (String × Json)) : Option (Option Json) :=
  match valuesOf key members with
  | [] => some none
  | [value] => some (some value)
  | _ => none

/-- The settings whose values, where present, are given in order. -/
def ofValues? (zone pretty historyFile logFilter : Option Json) : Option Settings := do
  let zone ← decodeOr standard.zone zone? zone
  let pretty ← decodeOr standard.pretty bool? pretty
  let historyFile ← decodeOr standard.historyFile optionalString? historyFile
  let logFilter ← decodeOr standard.logFilter string? logFilter
  return ⟨zone, pretty, historyFile, logFilter⟩

/-- The settings that a document holds. -/
def ofJson? : Json → Option Settings
  | .object members => do
      let zone ← member? "timezone" members
      let pretty ← member? "pretty" members
      let historyFile ← member? "history_file" members
      let logFilter ← member? "log_filter" members
      ofValues? zone pretty historyFile logFilter
  | .array items =>
      if items.length ≤ 4 then
        ofValues? items[0]? items[1]? items[2]? items[3]?
      else
        none
  | _ => none

/-- What is found at the path of a settings file. -/
inductive File where
  | missing
  /-- There is something, but its content cannot be had. -/
  | unreadable
  | content (bytes : ByteArray)

/-- Why settings cannot be had from a file. -/
inductive FileError where
  | notFound (path : String)
  | unreadable (path : String)
  | malformed (path : String)
  deriving DecidableEq, Repr, Inhabited

/-- The message of an error. -/
def FileError.message : FileError → String
  | notFound path => "config file does not exist: " ++ path
  | unreadable path => "cannot read config file " ++ path
  | malformed path => "cannot parse config file " ++ path

/-- The settings in what is found at a path. -/
def load (path : String) : File → Except FileError Settings
  | .missing => .error (.notFound path)
  | .unreadable => .error (.unreadable path)
  | .content bytes =>
      match String.fromUTF8? bytes with
      | none => .error (.unreadable path)
      | some text =>
          match (Json.read? text.toList).bind ofJson? with
          | none => .error (.malformed path)
          | some settings => .ok settings

/-- The environment variable that names another settings file. -/
def pathVariable : String := "FINDQL_CONFIG"

/-- The path of the settings file, given the value of the environment variable. -/
def path (named : Option String) : String :=
  named.getD "findql.json"

end Settings

end FindQuery
