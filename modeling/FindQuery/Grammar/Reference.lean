import FindQuery.Grammar.Reader
import FindQuery.Number.IntLiteral
import FindQuery.Time.Reference
import FindQuery.Time.TimeRange

/-!
# Reading references to time

```text
range     := reference                          after SINCE, up to now
           | reference AND reference            after BETWEEN
reference := FOREVER
           | YESTERDAY
           | DAY BEFORE YESTERDAY
           | (LAST | PREVIOUS) unit
           | unit BEFORE LAST
           | int unit AGO
           | string
```

A list of tokens that starts with no reference is refused without taking a token.
A reference that denotes no 64-bit time is refused after it was taken, at its
first token.
-/

namespace FindQuery.Grammar

open FindQuery.Number
open FindQuery.Time

/-- The unit that the token a number of places ahead names. -/
def unitAt? (tokens : List Token) (ahead : Nat) : Option TimeUnit :=
  (kindAt? tokens ahead).bind TimeUnit.ofKind?

/-- Takes a number of tokens and returns a reference. -/
def taking (count : Nat) (reference : Reference) : TokenReader Reference :=
  fun tokens => .ok reference (tokens.drop count)

/-- Reads a reference that starts with `DAY`. -/
def readDay : TokenReader Reference := fun tokens =>
  match kindAt? tokens 1 with
  | some .before =>
      match kindAt? tokens 2 with
      | some .yesterday => taking 3 (.wholeDay 2) tokens
      | some .last => taking 3 (.back (.calendar .day) 2) tokens
      | _ => failHere .beforeYesterdayMissing tokens
  | some .ago => failHere .notAnIntegerLiteral tokens
  | _ => failHere .beforeYesterdayMissing tokens

/-- Reads a reference that starts with `LAST` or `PREVIOUS`. -/
def readLast : TokenReader Reference := fun tokens =>
  match unitAt? tokens 1 with
  | some unit => taking 2 (.back unit 1) tokens
  | none => failHere .invalidTemporalReference tokens

/-- Reads a reference that starts with a unit other than `DAY`. -/
def readUnit (unit : TimeUnit) : TokenReader Reference := fun tokens =>
  if kindAt? tokens 1 = some .before ∧ kindAt? tokens 2 = some .last then
    taking 3 (.back unit 2) tokens
  else if kindAt? tokens 1 = some .ago then
    failHere .notAnIntegerLiteral tokens
  else
    failHere .invalidTemporalReference tokens

/-- Reads a reference that starts with an integer. -/
def readCount (text : String) : TokenReader Reference := fun tokens =>
  match IntLiteral.value? text.toList with
  | none => failHere .notAnIntegerLiteral tokens
  | some count =>
      match unitAt? tokens 1 with
      | none => failHere .invalidTemporalReference tokens
      | some unit =>
          if kindAt? tokens 2 = some .ago then
            taking 3 (.back unit count) tokens
          else
            .error ⟨.invalidTemporalReference, tokens.drop 2⟩ tokens

/-- Reads a reference that starts with a literal. -/
def readLiteral (token : Token) : TokenReader Reference :=
  match token.tag with
  | .int => readCount token.text
  | .float => failHere .notAnIntegerLiteral
  | .string => taking 1 (.stamp token.text)
  | _ => failHere .invalidTemporalReference

/-- Reads a reference. -/
def readReference : TokenReader Reference := fun tokens =>
  match tokens with
  | [] => failHere .invalidTemporalReference []
  | token :: rest =>
      match token.kind with
      | .forever => taking 1 .forever (token :: rest)
      | .yesterday => taking 1 (.wholeDay 1) (token :: rest)
      | .day => readDay (token :: rest)
      | .last | .previous => readLast (token :: rest)
      | .literal => readLiteral token (token :: rest)
      | kind =>
          match TimeUnit.ofKind? kind with
          | some unit => readUnit unit (token :: rest)
          | none => failHere .invalidTemporalReference (token :: rest)

/-- Reads a reference and takes it as a bound. -/
def readBound (now : Instant) (bound : Bound) : TokenReader Int := fun tokens =>
  match readReference tokens with
  | .error fault rest => .error fault rest
  | .ok reference rest =>
      match reference.resolve? now bound with
      | some nanos => .ok nanos rest
      | none => .error ⟨.invalidTemporalReference, tokens⟩ rest

/-- The present as a bound; it takes no token. -/
def readNow (now : Instant) : TokenReader Int :=
  match now.epochNanos? with
  | some nanos => pure nanos
  | none => failHere .invalidTemporalReference

/-- Reads what follows `SINCE`: from a reference up to now. -/
def readSince (now : Instant) : TokenReader TimeRange := do
  let opening ← readBound now .opening
  let present ← readNow now
  return .ofBounds opening present

/-- Reads what follows `BETWEEN`: two references joined by `AND`. -/
def readBetween (now : Instant) : TokenReader TimeRange := do
  let opening ← readBound now .opening
  if ← eat .and then
    let closing ← readBound now .closing
    return .ofBounds opening closing
  else
    failHere .missingAnd

end FindQuery.Grammar
