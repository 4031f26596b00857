import FindQuery.Grammar.Condition
import FindQuery.Grammar.Reference
import FindQuery.Lexis.Scanner
import FindQuery.Query

/-!
# Reading a statement

```text
query     := statement (PIPE token*)?
statement := FIND selection (MATCHING condition)? (SINCE | BETWEEN) range
selection := ALL | field (COMMA field)*
field     := name (AS name)?
name      := ident | string
```

The first pipe ends the statement; the tokens after it are not looked at.
-/

namespace FindQuery.Grammar

open FindQuery.Time

/-- Whether some tokens start with a name. -/
def startsWithName : List Token → Bool
  | [] => false
  | token :: _ => token.tag.isName

/-- Whether a token can start a field: it is a name and does not act as a comma. -/
def startsField (token : Token) : Bool :=
  token.tag.isName && token.kind != .comma

/-- Reads a name and the name that it is given after `AS`. -/
def readField : TokenReader Field := fun tokens =>
  match tokens with
  | [] => failHere .expectedField []
  | name :: rest =>
      if startsField name then
        if startsWith .rename rest then
          match rest.tail with
          | [] => failHere .expectedField []
          | label :: after =>
              if label.tag.isName then
                .ok ⟨name.text, label.text⟩ after
              else
                .error ⟨.expectedField, label :: after⟩ after
        else
          .ok (Field.plain name.text) rest
      else
        .error ⟨.expectedField, name :: rest⟩ rest

/-- A field takes at least one token. -/
theorem length_lt_of_readField
    {tokens after : List Token} {field : Field}
    (read : readField tokens = .ok field after) :
    after.length < tokens.length := by
  unfold readField at read
  split at read
  · cases read
  · rename_i name rest
    split at read
    · split at read
      · split at read
        · cases read
        · rename_i label following tailEqual
          split at read
          · cases read
            have shorter := congrArg List.length tailEqual
            simp only [List.length_tail, List.length_cons] at shorter
            simp only [List.length_cons]
            omega
          · cases read
      · cases read
        simp
    · cases read

/-- Reads the fields from here on, each but the first after a comma. -/
def readFields (tokens : List Token) : EStateM.Result Fault (List Token) (List Field) :=
  match _ : readField tokens with
  | .error fault rest => .error fault rest
  | .ok field rest =>
      if startsWith .comma rest then
        if startsWithName rest.tail then
          match readFields rest.tail with
          | .error fault later => .error fault later
          | .ok fields later => .ok (field :: fields) later
        else
          .error ⟨.expectedField, rest.tail⟩ rest
      else
        .ok [field] rest
termination_by tokens.length
decreasing_by
  have shorter := length_lt_of_readField (by assumption)
  simp only [List.length_tail]
  omega

/-- Reads the fields of a statement; no field stands for all of them. -/
def readSelection : TokenReader (Bool × List Field) := fun tokens =>
  if startsWith .all tokens then
    .ok (true, []) tokens.tail
  else if startsWith .comma tokens then
    failHere .expectedField tokens
  else if startsWithName tokens then
    match readFields tokens with
    | .error fault rest => .error fault rest
    | .ok fields rest => .ok (false, fields) rest
  else
    failHere .statementTruncated tokens

/-- Reads the condition of a statement, if there is one. -/
def readMatching : TokenReader (Option Condition) := do
  if ← eat .matching then
    let condition ← readCondition
    return some condition
  else
    return none

/-- Reads the range of time of a statement. -/
def readRange (now : Instant) : TokenReader TimeRange := do
  if ← eat .since then
    readSince now
  else if ← eat .between then
    readBetween now
  else
    failHere .missingTemporalClause

/-- Refuses tokens that are left over. -/
def readEnd : TokenReader Unit := fun tokens =>
  if tokens.isEmpty then
    .ok () tokens
  else
    failHere .unexpectedClause tokens

/-- Reads a statement, given the tokens that its query hands on. -/
def readStatement (now : Instant) (remainder : List Token) : TokenReader Query := do
  if ← eat .find then
    let (all, fields) ← readSelection
    let condition ← readMatching
    let range ← readRange now
    readEnd
    return ⟨fields, all, condition, range, remainder⟩
  else
    failHere .expectedStatement

/-- Whether a token ends the statement. -/
def isPipe (token : Token) : Bool :=
  token.kind == .pipe

/-- The tokens before the first pipe. -/
def statementTokens (tokens : List Token) : List Token :=
  tokens.takeWhile fun token => !isPipe token

/-- The tokens after the first pipe. -/
def remainderTokens (tokens : List Token) : List Token :=
  (tokens.dropWhile fun token => !isPipe token).tail

end FindQuery.Grammar

namespace FindQuery.Query

open FindQuery.Grammar
open FindQuery.Time

/-- The query that some tokens make up, with the present on a given clock. -/
def ofTokens (source : String) (tokens : List Token) (now : Instant) :
    Except QueryError Query :=
  match readStatement now (remainderTokens tokens) (statementTokens tokens) with
  | .ok query _ => .ok query
  | .error fault _ => .error (fault.toError source)

/-- The query that a text asks, with the present on a given clock. -/
def parse (source : String) (now : Instant) : Except QueryError Query :=
  match Lexis.tokenize source with
  | .ok tokens => ofTokens source tokens now
  | .error error => .error error

end FindQuery.Query
