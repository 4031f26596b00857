import FindQuery.Grammar.Statement
import FindQuery.Proofs.Grammar.Joined

/-!
# The language of statements

The relations of this module say which lists of tokens spell a field, a value, a
condition, a reference, a range of time and a whole query, and what each of them
means.  A relation speaks of exactly the tokens that its phrase consists of: it
neither looks at what follows nor says how a reader finds the end of the phrase.

Words and signs are told by the kind of a token and literals by its tag.  In a
coherent token the two agree on which tokens are literals.
-/

namespace FindQuery.Grammar

open FindQuery.Number
open FindQuery.Time

/-- The kind of the token is that of literals exactly when its tag is one of theirs. -/
def IsCoherent (token : Token) : Prop :=
  token.kind = .literal ↔ token.tag.isLiteral = true

instance (token : Token) : Decidable (IsCoherent token) :=
  inferInstanceAs (Decidable (_ ↔ _))

/-! ## Selections -/

/-- A name, or a name and after `AS` the name of its column. -/
inductive SpellsField : List Token → Field → Prop where
  | plain
      (name : Token)
      (named : name.tag.isName = true) :
      SpellsField [name] ⟨name.text, name.text⟩
  | renamed
      (name word label : Token)
      (named : name.tag.isName = true)
      (rename : word.kind = .rename)
      (labelled : label.tag.isName = true) :
      SpellsField [name, word, label] ⟨name.text, label.text⟩

/-- Fields, at least one, with commas between them. -/
def SpellsFields : List Token → List Field → Prop :=
  Joined .comma SpellsField

/-- `ALL`, or fields.  The flag says which, and `ALL` names no field. -/
inductive SpellsSelection : List Token → Bool → List Field → Prop where
  | all
      (word : Token)
      (isAll : word.kind = .all) :
      SpellsSelection [word] true []
  | fields
      {tokens : List Token} {fields : List Field}
      (spelled : SpellsFields tokens fields) :
      SpellsSelection tokens false fields

/-! ## Conditions -/

/-- A literal, or a sign and a number, which make up one value. -/
inductive SpellsValue : List Token → Value → Prop where
  | literal
      (token : Token) (kind : ValueKind)
      (valued : ValueKind.ofTag? token.tag = some kind) :
      SpellsValue [token] ⟨kind, token.text⟩
  | signed
      (sign number : Token) (kind : ValueKind)
      (isSign : sign.kind = .minus ∨ sign.kind = .plus)
      (numeric : number.tag.isNumeric = true)
      (valued : ValueKind.ofTag? number.tag = some kind) :
      SpellsValue [sign, number] ⟨kind, sign.text ++ number.text⟩

/-- Two values with an equality sign between them, given the spelling of a value. -/
inductive Equated (Spells : List Token → Value → Prop) : List Token → Predicate → Prop where
  | equal
      {leftTokens rightTokens : List Token} {left right : Value}
      (leftSpelled : Spells leftTokens left)
      (sign : Token)
      (isEqual : sign.kind = .equal)
      (rightSpelled : Spells rightTokens right) :
      Equated Spells (leftTokens ++ sign :: rightTokens) ⟨left, .equal, right⟩

/-- Two values with an equality sign between them. -/
def SpellsPredicate : List Token → Predicate → Prop :=
  Equated SpellsValue

/-- Predicates, at least one, with `AND` between them. -/
def SpellsConjunction : List Token → List Predicate → Prop :=
  Joined .and SpellsPredicate

/-- Conjunctions, at least one, with `OR` between them. -/
def SpellsAlternatives : List Token → List (List Predicate) → Prop :=
  Joined .or SpellsConjunction

/-- Nothing, or `MATCHING` and a condition. -/
inductive SpellsMatching : List Token → Option Condition → Prop where
  | absent :
      SpellsMatching [] none
  | present
      {tokens : List Token} {condition : Condition}
      (word : Token)
      (isMatching : word.kind = .matching)
      (spelled : SpellsAlternatives tokens condition.groups) :
      SpellsMatching (word :: tokens) (some condition)

/-! ## References and ranges of time -/

/-- The seven shapes of a reference. -/
inductive SpellsReference : List Token → Reference → Prop where
  | forever
      (word : Token)
      (isForever : word.kind = .forever) :
      SpellsReference [word] .forever
  | yesterday
      (word : Token)
      (isYesterday : word.kind = .yesterday) :
      SpellsReference [word] (.wholeDay 1)
  | dayBeforeYesterday
      (day before yesterday : Token)
      (isDay : day.kind = .day)
      (isBefore : before.kind = .before)
      (isYesterday : yesterday.kind = .yesterday) :
      SpellsReference [day, before, yesterday] (.wholeDay 2)
  | last
      (word name : Token) (unit : TimeUnit)
      (isLast : word.kind = .last ∨ word.kind = .previous)
      (isUnit : TimeUnit.ofKind? name.kind = some unit) :
      SpellsReference [word, name] (.back unit 1)
  | beforeLast
      (name before last : Token) (unit : TimeUnit)
      (isUnit : TimeUnit.ofKind? name.kind = some unit)
      (isBefore : before.kind = .before)
      (isLast : last.kind = .last) :
      SpellsReference [name, before, last] (.back unit 2)
  | ago
      (number name word : Token) (count : Int) (unit : TimeUnit)
      (isInt : number.tag = .int)
      (counted : IntLiteral.value? number.text.toList = some count)
      (isUnit : TimeUnit.ofKind? name.kind = some unit)
      (isAgo : word.kind = .ago) :
      SpellsReference [number, name, word] (.back unit count)
  | stamp
      (text : Token)
      (isString : text.tag = .string) :
      SpellsReference [text] (.stamp text.text)

/--
`SINCE` and a reference, or `BETWEEN` and two references joined by `AND`, all of
which name 64-bit times.  The bounds are put in order.
-/
inductive SpellsRange (now : Instant) : List Token → TimeRange → Prop where
  | since
      {tokens : List Token} {reference : Reference} {opening present : Int}
      (word : Token)
      (isSince : word.kind = .since)
      (spelled : SpellsReference tokens reference)
      (resolved : reference.resolve? now .opening = some opening)
      (presented : now.epochNanos? = some present) :
      SpellsRange now (word :: tokens) ⟨min opening present, max opening present⟩
  | between
      {firstTokens secondTokens : List Token} {first second : Reference}
      {opening closing : Int}
      (word : Token)
      (isBetween : word.kind = .between)
      (firstSpelled : SpellsReference firstTokens first)
      (firstResolved : first.resolve? now .opening = some opening)
      (joint : Token)
      (isAnd : joint.kind = .and)
      (secondSpelled : SpellsReference secondTokens second)
      (secondResolved : second.resolve? now .closing = some closing) :
      SpellsRange now (word :: (firstTokens ++ joint :: secondTokens))
        ⟨min opening closing, max opening closing⟩

/-! ## Queries -/

/-- The tokens before the first pipe and those after it; without a pipe, all and none. -/
inductive PartsAtPipe : List Token → List Token → List Token → Prop where
  | whole
      {statement : List Token}
      (unpiped : ∀ token ∈ statement, token.kind ≠ .pipe) :
      PartsAtPipe statement statement []
  | piped
      {statement remainder : List Token}
      (unpiped : ∀ token ∈ statement, token.kind ≠ .pipe)
      (pipe : Token)
      (isPipe : pipe.kind = .pipe) :
      PartsAtPipe (statement ++ pipe :: remainder) statement remainder

/--
A statement and the tokens that it hands on: `FIND`, a selection, perhaps a
condition, and a range of time, with nothing else before the pipe.
-/
inductive SpellsQuery (now : Instant) : List Token → Query → Prop where
  | find
      {tokens selection matching range remainder : List Token}
      {all : Bool} {fields : List Field} {condition : Option Condition}
      {time : TimeRange}
      (word : Token)
      (isFind : word.kind = .find)
      (parts : PartsAtPipe tokens (word :: (selection ++ (matching ++ range))) remainder)
      (selected : SpellsSelection selection all fields)
      (matched : SpellsMatching matching condition)
      (ranged : SpellsRange now range time) :
      SpellsQuery now tokens ⟨fields, all, condition, time, remainder⟩

end FindQuery.Grammar
