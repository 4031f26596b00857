import FindQuery.Proofs.Grammar.Reader
import Mathlib.Data.List.Forall2

/-!
# The shapes of references

A reference has one of eight shapes, each of which says what its tokens have to be and what
they mean.  Whatever a reader of references takes has one of the shapes, and every shape is
taken, whatever follows it; where no shape stands nothing is taken.  A literal has to be one
by its kind and by its tag, so that this is exact for every list of tokens.

A reader looks at three tokens at most, and the proofs take the tokens apart to that depth
and no further.
-/

namespace FindQuery.Grammar

open FindQuery.Number
open FindQuery.Time

/-- What one token of a shape has to be. -/
inductive Mark where
  | word (kind : Kind)
  | unit (named : TimeUnit)
  | count (number : Int)
  | text (shown : String)
  deriving DecidableEq, Repr

/-- Words and units are told by their kind; a number is an integer that can be converted. -/
def Mark.Fits : Mark → Token → Prop
  | .word kind, token => token.kind = kind
  | .unit named, token => TimeUnit.ofKind? token.kind = some named
  | .count number, token =>
      token.kind = .literal ∧ token.tag = .int ∧
        IntLiteral.value? token.text.toList = some number
  | .text shown, token => token.kind = .literal ∧ token.tag = .string ∧ token.text = shown

instance (mark : Mark) (token : Token) : Decidable (mark.Fits token) :=
  match mark with
  | .word _ => inferInstanceAs (Decidable (_ = _))
  | .unit _ => inferInstanceAs (Decidable (_ = _))
  | .count _ => inferInstanceAs (Decidable (_ ∧ _ ∧ _))
  | .text _ => inferInstanceAs (Decidable (_ ∧ _ ∧ _))

/-- The shapes of references. -/
inductive Shape where
  | forever
  | yesterday
  | dayBeforeYesterday
  | last (unit : TimeUnit)
  | previous (unit : TimeUnit)
  | beforeLast (unit : TimeUnit)
  | ago (count : Int) (unit : TimeUnit)
  | stamp (text : String)
  deriving DecidableEq, Repr

namespace Shape

/-- What the tokens of a shape have to be. -/
def marks : Shape → List Mark
  | forever => [.word .forever]
  | yesterday => [.word .yesterday]
  | dayBeforeYesterday => [.word .day, .word .before, .word .yesterday]
  | last unit => [.word .last, .unit unit]
  | previous unit => [.word .previous, .unit unit]
  | beforeLast unit => [.unit unit, .word .before, .word .last]
  | ago count unit => [.count count, .unit unit, .word .ago]
  | stamp text => [.text text]

/-- What a shape means. -/
def reference : Shape → Reference
  | forever => .forever
  | yesterday => .wholeDay 1
  | dayBeforeYesterday => .wholeDay 2
  | last unit => .back unit 1
  | previous unit => .back unit 1
  | beforeLast unit => .back unit 2
  | ago count unit => .back unit count
  | stamp text => .stamp text

/-- The tokens have a shape, all of them and no others. -/
def IsSpelledBy (shape : Shape) (phrase : List Token) : Prop :=
  List.Forall₂ Mark.Fits shape.marks phrase

instance (shape : Shape) (phrase : List Token) : Decidable (shape.IsSpelledBy phrase) :=
  inferInstanceAs (Decidable (List.Forall₂ _ _ _))

end Shape

/-! ## Looking ahead -/

/-- A kind one place ahead is that of a second token. -/
theorem exists_of_kindAt?_one
    {first : Token} {rest : List Token} {kind : Kind}
    (ahead : kindAt? (first :: rest) 1 = some kind) :
    ∃ second later, rest = second :: later ∧ second.kind = kind := by
  cases rest with
  | nil => simp [kindAt?] at ahead
  | cons second later => exact ⟨second, later, rfl, by simpa [kindAt?] using ahead⟩

theorem exists_of_kindAt?_two
    {first second : Token} {rest : List Token} {kind : Kind}
    (ahead : kindAt? (first :: second :: rest) 2 = some kind) :
    ∃ third later, rest = third :: later ∧ third.kind = kind := by
  cases rest with
  | nil => simp [kindAt?] at ahead
  | cons third later => exact ⟨third, later, rfl, by simpa [kindAt?] using ahead⟩

theorem exists_of_unitAt?_one
    {first : Token} {rest : List Token} {unit : TimeUnit}
    (ahead : unitAt? (first :: rest) 1 = some unit) :
    ∃ second later, rest = second :: later ∧ TimeUnit.ofKind? second.kind = some unit := by
  rcases Option.bind_eq_some_iff.1 ahead with ⟨kind, atOne, isUnit⟩
  rcases exists_of_kindAt?_one atOne with ⟨second, later, rfl, rfl⟩
  exact ⟨second, later, rfl, isUnit⟩

/-! ## What is taken has a shape -/

/--
A result of reading a reference is the meaning of a shape, with the tokens after the shape
left, or a fault with all tokens left.
-/
inductive IsShaped : List Token → EStateM.Result Fault (List Token) Reference → Prop where
  | taken
      (shape : Shape) {phrase : List Token}
      (spelled : shape.IsSpelledBy phrase)
      (rest : List Token) :
      IsShaped (phrase ++ rest) (.ok shape.reference rest)
  | refused
      (fault : Fault) (tokens : List Token) :
      IsShaped tokens (.error fault tokens)

theorem isShaped_readDay
    {day : Token} (isDay : day.kind = .day) (later : List Token) :
    IsShaped (day :: later) (readDay (day :: later)) := by
  rw [readDay]
  split
  · rename_i atOne
    rcases exists_of_kindAt?_one atOne with ⟨before, others, rfl, isBefore⟩
    split
    · rename_i atTwo
      rcases exists_of_kindAt?_two atTwo with ⟨yesterday, others, rfl, isYesterday⟩
      have spelled : Shape.dayBeforeYesterday.IsSpelledBy [day, before, yesterday] :=
        .cons isDay (.cons isBefore (.cons isYesterday .nil))
      exact .taken _ spelled others
    · rename_i atTwo
      rcases exists_of_kindAt?_two atTwo with ⟨last, others, rfl, isLast⟩
      have isUnit : TimeUnit.ofKind? day.kind = some (.calendar .day) := by
        rw [isDay]
        rfl
      have spelled : (Shape.beforeLast (.calendar .day)).IsSpelledBy [day, before, last] :=
        .cons isUnit (.cons isBefore (.cons isLast .nil))
      exact .taken _ spelled others
    · exact .refused _ _
  · exact .refused _ _
  · exact .refused _ _

theorem isShaped_readLast
    {word : Token} (isLast : word.kind = .last ∨ word.kind = .previous) (later : List Token) :
    IsShaped (word :: later) (readLast (word :: later)) := by
  rw [readLast]
  split
  · rename_i unit atOne
    rcases exists_of_unitAt?_one atOne with ⟨name, others, rfl, isUnit⟩
    rcases isLast with isLast | isPrevious
    · have spelled : (Shape.last unit).IsSpelledBy [word, name] :=
        .cons isLast (.cons isUnit .nil)
      exact .taken _ spelled others
    · have spelled : (Shape.previous unit).IsSpelledBy [word, name] :=
        .cons isPrevious (.cons isUnit .nil)
      exact .taken _ spelled others
  · exact .refused _ _

theorem isShaped_readUnit
    {name : Token} {unit : TimeUnit} (isUnit : TimeUnit.ofKind? name.kind = some unit)
    (later : List Token) :
    IsShaped (name :: later) (readUnit unit (name :: later)) := by
  rw [readUnit]
  split
  · rename_i ahead
    rcases exists_of_kindAt?_one ahead.1 with ⟨before, others, rfl, isBefore⟩
    rcases exists_of_kindAt?_two ahead.2 with ⟨last, others, rfl, isLast⟩
    have spelled : (Shape.beforeLast unit).IsSpelledBy [name, before, last] :=
      .cons isUnit (.cons isBefore (.cons isLast .nil))
    exact .taken _ spelled others
  · split
    · exact .refused _ _
    · exact .refused _ _

theorem isShaped_readCount
    {number : Token} (isLiteral : number.kind = .literal) (isInt : number.tag = .int)
    (later : List Token) :
    IsShaped (number :: later) (readCount number.text (number :: later)) := by
  rw [readCount]
  split
  · exact .refused _ _
  · rename_i count counted
    split
    · exact .refused _ _
    · rename_i unit atOne
      rcases exists_of_unitAt?_one atOne with ⟨name, others, rfl, isUnit⟩
      split
      · rename_i atTwo
        rcases exists_of_kindAt?_two atTwo with ⟨word, others, rfl, isAgo⟩
        have spelled : (Shape.ago count unit).IsSpelledBy [number, name, word] :=
          .cons ⟨isLiteral, isInt, counted⟩ (.cons isUnit (.cons isAgo .nil))
        exact .taken _ spelled others
      · exact .refused _ _

theorem isShaped_readLiteral
    {token : Token} (isLiteral : token.kind = .literal) (later : List Token) :
    IsShaped (token :: later) (readLiteral token (token :: later)) := by
  generalize same : readLiteral token = reader
  rw [readLiteral] at same
  split at same
  · rename_i isInt
    subst reader
    exact isShaped_readCount isLiteral isInt later
  · subst reader
    exact .refused _ _
  · rename_i isString
    subst reader
    have spelled : (Shape.stamp token.text).IsSpelledBy [token] :=
      .cons ⟨isLiteral, isString, rfl⟩ .nil
    exact .taken _ spelled later
  · subst reader
    exact .refused _ _

/-- Whatever is read as a reference has a shape, and what has none is left alone. -/
theorem isShaped_readReference (tokens : List Token) :
    IsShaped tokens (readReference tokens) := by
  cases tokens with
  | nil => exact .refused _ _
  | cons token later =>
      rw [readReference]
      split
      · rename_i isForever
        have spelled : Shape.forever.IsSpelledBy [token] := .cons isForever .nil
        exact .taken _ spelled later
      · rename_i isYesterday
        have spelled : Shape.yesterday.IsSpelledBy [token] := .cons isYesterday .nil
        exact .taken _ spelled later
      · rename_i isDay
        exact isShaped_readDay isDay later
      · rename_i isLast
        exact isShaped_readLast (.inl isLast) later
      · rename_i isPrevious
        exact isShaped_readLast (.inr isPrevious) later
      · rename_i isLiteral
        exact isShaped_readLiteral isLiteral later
      · split
        · rename_i unit isUnit
          exact isShaped_readUnit isUnit later
        · exact .refused _ _

/-! ## Every shape is taken -/

theorem readReference_of_isSpelledBy
    {shape : Shape} {phrase : List Token}
    (spelled : shape.IsSpelledBy phrase)
    (rest : List Token) :
    readReference (phrase ++ rest) = .ok shape.reference rest := by
  cases shape with
  | forever =>
      rcases spelled with _ | ⟨isForever, _ | _⟩
      simp only [Mark.Fits] at isForever
      simp [readReference, isForever, taking, Shape.reference]
  | yesterday =>
      rcases spelled with _ | ⟨isYesterday, _ | _⟩
      simp only [Mark.Fits] at isYesterday
      simp [readReference, isYesterday, taking, Shape.reference]
  | dayBeforeYesterday =>
      rcases spelled with _ | ⟨isDay, _ | ⟨isBefore, _ | ⟨isYesterday, _ | _⟩⟩⟩
      simp only [Mark.Fits] at isDay isBefore isYesterday
      simp [readReference, isDay, readDay, kindAt?, isBefore, isYesterday, taking,
        Shape.reference]
  | last unit =>
      rcases spelled with _ | ⟨isLast, _ | ⟨isUnit, _ | _⟩⟩
      simp only [Mark.Fits] at isLast isUnit
      simp [readReference, isLast, readLast, unitAt?, kindAt?, isUnit, taking, Shape.reference]
  | previous unit =>
      rcases spelled with _ | ⟨isPrevious, _ | ⟨isUnit, _ | _⟩⟩
      simp only [Mark.Fits] at isPrevious isUnit
      simp [readReference, isPrevious, readLast, unitAt?, kindAt?, isUnit, taking,
        Shape.reference]
  | beforeLast unit =>
      rcases spelled with _ | @⟨_, name, _, _, isUnit, _ | ⟨isBefore, _ | ⟨isLast, _ | _⟩⟩⟩
      simp only [Mark.Fits] at isUnit isBefore isLast
      by_cases isDay : name.kind = .day
      · have same : unit = .calendar .day := by
          rw [isDay] at isUnit
          exact (Option.some.inj isUnit).symm
        simp [readReference, isDay, readDay, kindAt?, isBefore, isLast, taking, same,
          Shape.reference]
      · simp only [List.cons_append, List.nil_append, readReference]
        -- a unit other than `DAY` is none of the words that have a case of their own
        split <;> simp_all [TimeUnit.ofKind?, readUnit, kindAt?, taking, Shape.reference]
  | ago count unit =>
      rcases spelled with
        _ | ⟨⟨isLiteral, isInt, counted⟩, _ | ⟨isUnit, _ | ⟨isAgo, _ | _⟩⟩⟩
      simp only [Mark.Fits] at isUnit isAgo
      simp [readReference, isLiteral, readLiteral, isInt, readCount, counted, unitAt?,
        kindAt?, isUnit, isAgo, taking, Shape.reference]
  | stamp text =>
      rcases spelled with _ | ⟨⟨isLiteral, isString, rfl⟩, _ | _⟩
      simp [readReference, isLiteral, readLiteral, isString, taking, Shape.reference]

/-- A reference is read exactly where one of its shapes stands. -/
theorem readReference_eq_ok_iff_isSpelledBy
    (tokens rest : List Token) (reference : Reference) :
    readReference tokens = .ok reference rest ↔
      ∃ shape phrase,
        tokens = phrase ++ rest ∧ Shape.IsSpelledBy shape phrase ∧
          shape.reference = reference := by
  constructor
  · intro read
    have shaped := isShaped_readReference tokens
    rw [read] at shaped
    cases shaped with
    | taken shape spelled => exact ⟨shape, _, rfl, spelled, rfl⟩
  · rintro ⟨shape, phrase, rfl, spelled, rfl⟩
    exact readReference_of_isSpelledBy spelled rest

/-- Where no shape stands, reading a reference fails and takes nothing. -/
theorem exists_fault_of_not_isSpelledBy
    {tokens : List Token}
    (shapeless : ∀ shape phrase, Shape.IsSpelledBy shape phrase → ¬ phrase <+: tokens) :
    ∃ fault, readReference tokens = .error fault tokens := by
  cases read : readReference tokens with
  | ok reference rest =>
      rcases (readReference_eq_ok_iff_isSpelledBy _ _ _).1 read with
        ⟨shape, phrase, rfl, spelled, -⟩
      exact absurd (List.prefix_append phrase rest) (shapeless shape phrase spelled)
  | error fault left =>
      have shaped := isShaped_readReference tokens
      rw [read] at shaped
      cases shaped with
      | refused => exact ⟨fault, rfl⟩

end FindQuery.Grammar
