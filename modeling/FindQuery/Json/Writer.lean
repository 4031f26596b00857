import FindQuery.Json

/-!
# Writing JSON

The compact form has no blanks.  The indented form puts every item and member on
a line of its own, two spaces deeper than what encloses it, with a space after
the colon; an empty array or object stays on one line.  In strings the quote, the
backslash and the control characters are escaped, and nothing else is.
-/

namespace FindQuery.Json

/-- The lower-case hexadecimal digit of a number below sixteen. -/
def hexDigit (number : Nat) : Char :=
  if number < 10 then
    Char.ofNat ('0'.toNat + number)
  else
    Char.ofNat ('a'.toNat + (number - 10))

/-- A character as it stands in a string. -/
def escape (character : Char) : List Char :=
  if character = '"' then
    ['\\', '"']
  else if character = '\\' then
    ['\\', '\\']
  else if character = '\x08' then
    ['\\', 'b']
  else if character = '\t' then
    ['\\', 't']
  else if character = '\n' then
    ['\\', 'n']
  else if character = '\x0c' then
    ['\\', 'f']
  else if character = '\r' then
    ['\\', 'r']
  else if character.toNat < 32 then
    ['\\', 'u', '0', '0', hexDigit (character.toNat / 16), hexDigit (character.toNat % 16)]
  else
    [character]

/-- A text in quotes. -/
def quote (text : String) : List Char :=
  '"' :: (text.toList.flatMap escape ++ ['"'])

/-- A value that is neither an array nor an object. -/
def scalar : Json → List Char
  | null => "null".toList
  | bool true => "true".toList
  | bool false => "false".toList
  | number text => text.toList
  | string text => quote text
  | array _ => []
  | object _ => []
  | undecodable => "\"\\ud800\"".toList

mutual

/-- The compact form of a value. -/
def compact : Json → List Char
  | array [] => ['[', ']']
  | array (first :: later) => '[' :: (compact first ++ compactItems later ++ [']'])
  | object [] => ['\x7b', '\x7d']
  | object ((key, first) :: later) =>
      '\x7b' :: (quote key ++ ':' :: (compact first ++ compactMembers later ++ ['\x7d']))
  | value => scalar value

/-- The compact form of the items after the first. -/
def compactItems : List Json → List Char
  | [] => []
  | item :: later => ',' :: (compact item ++ compactItems later)

/-- The compact form of the members after the first. -/
def compactMembers : List (String × Json) → List Char
  | [] => []
  | (key, value) :: later =>
      ',' :: (quote key ++ ':' :: (compact value ++ compactMembers later))

end

/-- A line break and the indentation of a depth. -/
def newLine (depth : Nat) : List Char :=
  '\n' :: List.replicate (2 * depth) ' '

mutual

/-- The indented form of a value at a depth. -/
def indented (depth : Nat) : Json → List Char
  | array [] => ['[', ']']
  | array (first :: later) =>
      '[' :: (newLine (depth + 1) ++ indented (depth + 1) first ++
        indentedItems (depth + 1) later ++ newLine depth ++ [']'])
  | object [] => ['\x7b', '\x7d']
  | object ((key, first) :: later) =>
      '\x7b' :: (newLine (depth + 1) ++ quote key ++ ':' :: ' ' ::
        (indented (depth + 1) first ++ indentedMembers (depth + 1) later ++
          newLine depth ++ ['\x7d']))
  | value => scalar value

/-- The indented form of the items after the first. -/
def indentedItems (depth : Nat) : List Json → List Char
  | [] => []
  | item :: later =>
      ',' :: (newLine depth ++ indented depth item ++ indentedItems depth later)

/-- The indented form of the members after the first. -/
def indentedMembers (depth : Nat) : List (String × Json) → List Char
  | [] => []
  | (key, value) :: later =>
      ',' :: (newLine depth ++ quote key ++ ':' :: ' ' ::
        (indented depth value ++ indentedMembers depth later))

end

/-- The text of a value, indented or compact. -/
def write (pretty : Bool) (value : Json) : String :=
  String.ofList (if pretty then indented 0 value else compact value)

end FindQuery.Json
