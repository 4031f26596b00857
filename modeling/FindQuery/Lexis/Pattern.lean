import FindQuery.Text.LetterCase
import FindQuery.Text.WordCharacter

/-!
# Lexical patterns

A pattern describes the lexemes of one rule.  `Pattern.matchLength` measures, in
characters, the lexeme that a pattern finds at the start of a text.  Words end
at a word boundary and integers do too; names, signs, quoted texts and decimal
numerals simply run as far as they can.
-/

namespace FindQuery.Lexis

open FindQuery.Text

/-- The shapes of lexemes. -/
inductive Pattern where
  /-- One of some reserved words, given in upper case, followed by a word boundary. -/
  | word (spellings : List String)
  /-- The first of some signs that the text starts with. -/
  | sign (spellings : List String)
  /-- A text in single or in double quotes, which cannot hold its own quote. -/
  | quoted
  /-- A name, bare or in brackets. -/
  | name
  /-- A numeral with a decimal point, or with a signed exponent. -/
  | decimal
  /-- A numeral without point, its exponent unsigned, followed by a word boundary. -/
  | integer
  deriving DecidableEq, Repr

/-- The two quotes. -/
def isQuote (character : Char) : Bool :=
  character == '\'' || character == '"'

/-- Whether a name can start with a character. -/
def isNameStart (character : Char) : Bool :=
  character.isAlpha || character == '_'

/-- Whether a name can go on with a character. -/
def isNamePart (character : Char) : Bool :=
  character.isAlphanum || character == '_' || character == '.' || character == '@' ||
    character == '$'

/-- Whether a character introduces an exponent. -/
def isExponentMark (character : Char) : Bool :=
  character == 'e' || character == 'E'

/-- Whether a character is the sign of an exponent. -/
def isExponentSign (character : Char) : Bool :=
  character == '-' || character == '+'

/-- Characters up to and including the next occurrence of the quote, if there is one. -/
def quotedLength? : List Char → Option Nat
  | [] => none
  | quote :: rest =>
      if isQuote quote ∧ quote ∈ rest then
        some ((rest.takeWhile (· != quote)).length + 2)
      else
        none

/-- The length of the bare name at the start of a text. -/
def bareNameLength? : List Char → Option Nat
  | [] => none
  | first :: rest =>
      if isNameStart first then
        some ((rest.takeWhile isNamePart).length + 1)
      else
        none

/-- The length of the name at the start of a text, brackets included. -/
def nameLength? : List Char → Option Nat
  | '[' :: rest =>
      match bareNameLength? rest with
      | none => none
      | some length =>
          if (rest.drop length).head? = some ']' then
            some (length + 2)
          else
            none
  | text => bareNameLength? text

/-- The number of decimal digits at the start of a text. -/
def digitCount (text : List Char) : Nat :=
  (text.takeWhile isDecimalDigit).length

/-- The length of an exponent without sign at the start of a text, `0` where there is none. -/
def unsignedExponentLength : List Char → Nat
  | mark :: rest =>
      if isExponentMark mark && 0 < digitCount rest then
        digitCount rest + 1
      else
        0
  | [] => 0

/-- The length of an exponent with a sign at the start of a text, `0` where there is none. -/
def signedExponentLength : List Char → Nat
  | mark :: sign :: rest =>
      if isExponentMark mark && isExponentSign sign && 0 < digitCount rest then
        digitCount rest + 2
      else
        0
  | _ => 0

/-- The length of the numeral with a point at the start of a text. -/
def pointedLength? (text : List Char) : Option Nat :=
  let whole := digitCount text
  match text.drop whole with
  | '.' :: rest =>
      let fraction := digitCount rest
      if 0 < fraction then
        let tail := rest.drop fraction
        some (whole + 1 + fraction +
          max (signedExponentLength tail) (unsignedExponentLength tail))
      else
        none
  | _ => none

/-- The length of the numeral with a signed exponent and no point at the start of a text. -/
def scaledLength? (text : List Char) : Option Nat :=
  let whole := digitCount text
  let exponent := signedExponentLength (text.drop whole)
  if 0 < whole ∧ 0 < exponent then
    some (whole + exponent)
  else
    none

/-- The length of the integer at the start of a text. -/
def integerLength? (text : List Char) : Option Nat :=
  let whole := digitCount text
  let length := whole + unsignedExponentLength (text.drop whole)
  if 0 < whole ∧ endsWord (text.drop length) = true then
    some length
  else
    none

namespace Pattern

/-- The number of characters that a pattern finds at the start of a text. -/
def matchLength (pattern : Pattern) (text : List Char) : Option Nat :=
  match pattern with
  | word spellings =>
      (spellings.find? fun spelling =>
        startsWithFolded spelling.toList text &&
          endsWord (text.drop spelling.toList.length)).map fun spelling =>
        spelling.toList.length
  | sign spellings =>
      (spellings.find? fun spelling => spelling.toList.isPrefixOf text).map fun spelling =>
        spelling.toList.length
  | quoted => quotedLength? text
  | name => nameLength? text
  | decimal => (pointedLength? text).or (scaledLength? text)
  | integer => integerLength? text

end Pattern

end FindQuery.Lexis
