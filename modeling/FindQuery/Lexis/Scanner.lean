import FindQuery.Error
import FindQuery.Keyword
import FindQuery.Lexis.Comment
import FindQuery.Lexis.Rule
import FindQuery.Text.Blank
import FindQuery.Token

/-!
# From text to tokens

The scanner reads a normalised text from left to right.  Each step skips blanks,
takes the lexeme of the first matching rule and turns it into a token; the step
fails where no rule matches or where a word has no spelling.  Every token takes
at least one character, so a scan ends.
-/

namespace FindQuery.Lexis

open FindQuery.Text

/-- How far a scan has come: the byte offset and the text from there on. -/
structure Position where
  offset : Nat
  rest : List Char
  deriving DecidableEq, Repr, Inhabited

namespace Position

/-- The position after a given number of characters. -/
def advance (position : Position) (count : Nat) : Position where
  offset := position.offset + byteLength (position.rest.take count)
  rest := position.rest.drop count

/-- The position of the next character that is no blank. -/
def skipBlanks (position : Position) : Position :=
  position.advance (position.rest.takeWhile isBlank).length

end Position

/-- The text of an identifier: the lexeme without its brackets. -/
def unbracket : List Char → List Char
  | '[' :: rest => if rest.getLast? = some ']' then rest.dropLast else '[' :: rest
  | lexeme => lexeme

/-- The kind and the text of a lexeme, `none` for a word that is no spelling. -/
def interpret? (tag : Tag) (lexeme : List Char) : Option (Kind × List Char) :=
  match tag with
  | .string => some (.literal, (lexeme.drop 1).dropLast)
  | .ident => some (.literal, unbracket lexeme)
  | .float | .int => some (.literal, lexeme)
  | _ => (Keyword.kindOf? lexeme).map fun kind => (kind, lexeme)

/-- What a step of the scanner comes to. -/
inductive Step where
  /-- Only blanks were left. -/
  | finished
  /-- A token, and the position after it. -/
  | token (token : Token) (after : Position)
  /-- Nothing can be read at an offset. -/
  | fault (cause : LexicalCause) (offset : Nat)
  deriving DecidableEq, Repr, Inhabited

/-- Reads the token at a position where a character that is no blank stands. -/
def readToken (position : Position) : Step :=
  match firstMatch? position.rest with
  | none => .fault .noMatch position.offset
  | some (tag, length) =>
      let lexeme := position.rest.take length
      match interpret? tag lexeme with
      | none => .fault (.unknownSymbol tag (String.ofList lexeme)) position.offset
      | some (kind, text) =>
          let after := position.advance length
          .token ⟨kind, tag, String.ofList text, ⟨position.offset, after.offset⟩⟩ after

/-- Skips blanks and reads the token after them. -/
def step (position : Position) : Step :=
  let start := position.skipBlanks
  if start.rest = [] then
    .finished
  else
    readToken start

theorem length_rest_skipBlanks_le (position : Position) :
    position.skipBlanks.rest.length ≤ position.rest.length := by
  simp [Position.skipBlanks, Position.advance]

/-- A token leaves less text than there was. -/
theorem length_rest_lt_of_step
    {position after : Position} {token : Token}
    (read : step position = .token token after) :
    after.rest.length < position.rest.length := by
  have skipped := length_rest_skipBlanks_le position
  unfold step at read
  simp only at read
  split at read
  · cases read
  · rename_i nonempty
    unfold readToken at read
    split at read
    · cases read
    · rename_i tag length found
      have positive := firstMatch?_pos found
      have present := List.length_pos_iff.2 nonempty
      simp only at read
      split at read
      · cases read
      · injection read with _ same
        subst same
        simp only [Position.advance, List.length_drop]
        omega

/-- The tokens of a text up to its end or to the first fault. -/
structure Scan where
  tokens : List Token
  fault? : Option (LexicalCause × Nat)
  deriving DecidableEq, Repr, Inhabited

/-- Reads tokens from a position on. -/
def scan (position : Position) : Scan :=
  match _ : step position with
  | .finished => ⟨[], none⟩
  | .fault cause offset => ⟨[], some (cause, offset)⟩
  | .token token after =>
      let later := scan after
      ⟨token :: later.tokens, later.fault?⟩
termination_by position.rest.length
decreasing_by exact length_rest_lt_of_step (by assumption)

/-- The start of a query, its comments blanked out. -/
def startOf (query : String) : Position :=
  ⟨0, normalize query.toList⟩

/-- The error of a fault in a query. -/
def errorOf (query : String) (cause : LexicalCause) (offset : Nat) : QueryError :=
  ⟨.lexical cause, Location.ofOffset query offset⟩

/-- The tokens of a query, or the error that ends it early. -/
def tokenize (query : String) : Except QueryError (List Token) :=
  let result := scan (startOf query)
  match result.fault? with
  | none => .ok result.tokens
  | some (cause, offset) => .error (errorOf query cause offset)

end FindQuery.Lexis
