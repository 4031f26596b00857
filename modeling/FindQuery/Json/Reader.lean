import FindQuery.Json

/-!
# Reading JSON

The reader accepts exactly the JSON grammar: four blanks, no comments, no
trailing commas, no control characters in strings, and nothing after the value.
An escape may name half of a surrogate pair; two halves that follow each other
denote one character, and a half on its own makes the string undecodable.
-/

namespace FindQuery.Json

/-- Whether a character parts the lexemes of a JSON text. -/
def isSpace (character : Char) : Bool :=
  character == ' ' || character == '\t' || character == '\n' || character == '\r'

/-- A text without the blanks at its start. -/
def skipSpace (text : List Char) : List Char :=
  text.dropWhile isSpace

/-! ### Strings -/

/-- The value of a hexadecimal digit in either case. -/
def hexValue? (character : Char) : Option Nat :=
  if '0' ≤ character ∧ character ≤ '9' then
    some (character.toNat - '0'.toNat)
  else if 'a' ≤ character ∧ character ≤ 'f' then
    some (character.toNat - 'a'.toNat + 10)
  else if 'A' ≤ character ∧ character ≤ 'F' then
    some (character.toNat - 'A'.toNat + 10)
  else
    none

/-- The value of four hexadecimal digits. -/
def hexValue4? (first second third fourth : Char) : Option Nat := do
  let first ← hexValue? first
  let second ← hexValue? second
  let third ← hexValue? third
  let fourth ← hexValue? fourth
  return ((first * 16 + second) * 16 + third) * 16 + fourth

/-- The code point that an escape of one letter denotes. -/
def shortEscape? : Char → Option Nat
  | '"' => some '"'.toNat
  | '\\' => some '\\'.toNat
  | '/' => some '/'.toNat
  | 'b' => some 8
  | 'f' => some 12
  | 'n' => some 10
  | 'r' => some 13
  | 't' => some 9
  | _ => none

/--
The code points of a string after its opening quote, and the text after its
closing quote.  Escapes may denote surrogates.
-/
def readPoints? : List Char → Option (List Nat × List Char)
  | '"' :: rest => some ([], rest)
  | '\\' :: 'u' :: first :: second :: third :: fourth :: rest => do
      let point ← hexValue4? first second third fourth
      let (points, after) ← readPoints? rest
      return (point :: points, after)
  | '\\' :: letter :: rest => do
      let point ← shortEscape? letter
      let (points, after) ← readPoints? rest
      return (point :: points, after)
  | character :: rest =>
      if character.toNat < 32 then
        none
      else do
        let (points, after) ← readPoints? rest
        return (character.toNat :: points, after)
  | [] => none

/-- Whether a code point is the first half of a surrogate pair. -/
def isHighSurrogate (point : Nat) : Bool :=
  0xD800 ≤ point && point < 0xDC00

/-- Whether a code point is the second half of a surrogate pair. -/
def isLowSurrogate (point : Nat) : Bool :=
  0xDC00 ≤ point && point < 0xE000

/-- The characters that code points denote, `none` if half of a surrogate pair stands alone. -/
def decodePoints? : List Nat → Option (List Char)
  | [] => some []
  | [point] =>
      if isHighSurrogate point || isLowSurrogate point then
        none
      else
        some [Char.ofNat point]
  | first :: second :: rest =>
      if isHighSurrogate first then
        if isLowSurrogate second then
          (decodePoints? rest).map fun characters =>
            Char.ofNat (0x10000 + (first - 0xD800) * 0x400 + (second - 0xDC00)) :: characters
        else
          none
      else if isLowSurrogate first then
        none
      else
        (decodePoints? (second :: rest)).map fun characters =>
          Char.ofNat first :: characters

/-- The text of a string after its opening quote, `none` inside if it is undecodable. -/
def readString? (text : List Char) : Option (Option String × List Char) :=
  (readPoints? text).map fun read => ((decodePoints? read.1).map String.ofList, read.2)

/-! ### Numbers -/

/-- The text after a run of digits, at least one. -/
def skipDigits? (text : List Char) : Option (List Char) :=
  if (text.takeWhile Char.isDigit).isEmpty then
    none
  else
    some (text.dropWhile Char.isDigit)

/-- The text after the whole part of a number: a zero, or digits that start with no zero. -/
def skipWhole? : List Char → Option (List Char)
  | '0' :: rest => some rest
  | text => skipDigits? text

/-- The text after an optional fraction. -/
def skipFraction? : List Char → Option (List Char)
  | '.' :: rest => skipDigits? rest
  | text => some text

/-- The text after an optional exponent. -/
def skipExponent? : List Char → Option (List Char)
  | mark :: rest =>
      if mark = 'e' ∨ mark = 'E' then
        match rest with
        | '+' :: digits => skipDigits? digits
        | '-' :: digits => skipDigits? digits
        | digits => skipDigits? digits
      else
        some (mark :: rest)
  | [] => some []

/-- The number at the start of a text. -/
def readNumber? (text : List Char) : Option (Json × List Char) := do
  let unsigned := match text with
    | '-' :: rest => rest
    | rest => rest
  let afterWhole ← skipWhole? unsigned
  let afterFraction ← skipFraction? afterWhole
  let after ← skipExponent? afterFraction
  return (.number (String.ofList (text.take (text.length - after.length))), after)

/-! ### Values -/

/-- The object of some members, undecodable if a key is. -/
def objectOf (members : List (Option String × Json)) : Json :=
  if members.all (·.1.isSome) then
    .object (members.filterMap fun member => member.1.map fun key => (key, member.2))
  else
    .undecodable

mutual

/-- The value at the start of a text, with a bound on the depth of the reading. -/
def readValue? : Nat → List Char → Option (Json × List Char)
  | 0, _ => none
  | fuel + 1, text =>
      match text with
      | 'n' :: 'u' :: 'l' :: 'l' :: rest => some (.null, rest)
      | 't' :: 'r' :: 'u' :: 'e' :: rest => some (.bool true, rest)
      | 'f' :: 'a' :: 'l' :: 's' :: 'e' :: rest => some (.bool false, rest)
      | '"' :: rest =>
          (readString? rest).map fun read =>
            match read.1 with
            | some text => (.string text, read.2)
            | none => (.undecodable, read.2)
      | '[' :: rest =>
          match skipSpace rest with
          | ']' :: after => some (.array [], after)
          | inner => (readItems? fuel inner).map fun read => (.array read.1, read.2)
      | '\x7b' :: rest =>
          match skipSpace rest with
          | '\x7d' :: after => some (.object [], after)
          | inner => (readMembers? fuel inner).map fun read => (objectOf read.1, read.2)
      | numeral => readNumber? numeral

/-- The items of an array from the next one on, and the text after its closing bracket. -/
def readItems? : Nat → List Char → Option (List Json × List Char)
  | 0, _ => none
  | fuel + 1, text => do
      let (item, rest) ← readValue? fuel text
      match skipSpace rest with
      | ']' :: after => return ([item], after)
      | ',' :: later =>
          let (items, after) ← readItems? fuel (skipSpace later)
          return (item :: items, after)
      | _ => none

/-- The members of an object from the next one on, and the text after its closing brace. -/
def readMembers? : Nat → List Char → Option (List (Option String × Json) × List Char)
  | 0, _ => none
  | fuel + 1, text =>
      match text with
      | '"' :: rest => do
          let (key, afterKey) ← readString? rest
          match skipSpace afterKey with
          | ':' :: beforeValue =>
              let (value, afterValue) ← readValue? fuel (skipSpace beforeValue)
              match skipSpace afterValue with
              | '\x7d' :: after => return ([(key, value)], after)
              | ',' :: later =>
                  let (members, after) ← readMembers? fuel (skipSpace later)
                  return ((key, value) :: members, after)
              | _ => none
          | _ => none
      | _ => none

end

/--
The value that a text denotes.  Every nested reading takes a character, so twice
the length of the text bounds the depth.
-/
def read? (text : List Char) : Option Json :=
  match readValue? (2 * text.length + 2) (skipSpace text) with
  | some (value, rest) => if (skipSpace rest).isEmpty then some value else none
  | none => none

end FindQuery.Json
