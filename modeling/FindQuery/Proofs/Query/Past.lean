import FindQuery.Proofs.Grammar.Bound
import FindQuery.Proofs.Number.IntLiteral
import FindQuery.Proofs.Query.Number
import FindQuery.Proofs.Time.Past

/-!
# Ranges up to the present

The integers of a query carry no sign, so its references count back from the present and never
forward.  A range that `SINCE` opens with a reference therefore goes from that reference to the
present, and its bounds stand as they were read.  Only a timestamp can name the future, and the
epoch is in the future before it has begun.
-/

namespace FindQuery

open FindQuery.Number
open FindQuery.Time

/-! ## Counts in a query -/

/-- The integers of a query start with a digit, so none of them is negative. -/
theorem Lexis.nonneg_of_value?_of_tokenize
    {query : String} {lexed : List Token} (tokenized : tokenize query = .ok lexed)
    {token : Token} (member : token ∈ lexed) (isInt : token.tag = .int)
    {count : Int} (counted : IntLiteral.value? token.text.toList = some count) :
    0 ≤ count := by
  have numeral := isNumeral_of_tokenize tokenized member (by rw [isInt]; rfl)
  rcases numeral.exists_head with ⟨first, later, spelled, starts⟩
  have unsigned : first ≠ '-' ∧ first ≠ '+' := by
    rcases starts with digit | rfl
    · constructor
      · rintro rfl
        revert digit
        decide
      · rintro rfl
        revert digit
        decide
    · decide
  rw [spelled] at counted
  exact IntLiteral.nonneg_of_value? unsigned counted

namespace Grammar

/-- A reference counts what its integer says, or once, or twice. -/
theorem SpellsReference.nonneg_of_back
    {used : List Token} {unit : TimeUnit} {count : Int}
    (spelled : SpellsReference used (.back unit count))
    (unsigned : ∀ token ∈ used, token.tag = .int →
      ∀ number, IntLiteral.value? token.text.toList = some number → 0 ≤ number) :
    0 ≤ count := by
  cases spelled with
  | last => decide
  | beforeLast => decide
  | ago number name word count unit isInt counted isUnit isAgo =>
      exact unsigned number List.mem_cons_self isInt count counted

/--
A range that starts with a reference of a query, other than a timestamp and an epoch that has
not begun, goes from the opening bound of the reference to the present, in this order.
-/
theorem readSince_of_tokenize
    {query : String} {lexed : List Token} (tokenized : Lexis.tokenize query = .ok lexed)
    {now : Instant} (ordinary : now.clock.IsOrdinary)
    {tokens rest : List Token} (part : tokens ⊆ lexed)
    (unquoted : ∀ first ∈ tokens.head?, first.tag ≠ .string)
    (begun : ∀ first ∈ tokens.head?, first.kind = .forever → 0 ≤ now.totalNanos)
    {range : TimeRange} (read : readSince now tokens = .ok range rest) :
    readBound now .opening tokens = .ok range.start rest ∧
      now.epochNanos? = some range.stop ∧ range.stop = now.totalNanos ∧
        range.start ≤ range.stop := by
  rcases (readSince_eq_ok_iff _ _ _ _).1 read with ⟨opening, present, opened, presented, rfl⟩
  rcases spellsReference_of_readBound opened with ⟨used, reference, rfl, spelled, resolved⟩
  have unstamped : ∀ text, reference ≠ .stamp text := by
    rintro text rfl
    cases spelled with
    | stamp token isString => exact unquoted token rfl isString
  have epoch : reference = .forever → 0 ≤ now.totalNanos := by
    rintro rfl
    cases spelled with
    | forever word isForever => exact begun word rfl isForever
  have nonnegative : ∀ unit count, reference = .back unit count → 0 ≤ count := by
    rintro unit count rfl
    apply spelled.nonneg_of_back
    intro token member isInt number counted
    have inQuery := part (List.mem_append_left rest member)
    exact Lexis.nonneg_of_value?_of_tokenize tokenized inQuery isInt counted
  have order := resolve?_opening_le_totalNanos ordinary unstamped epoch nonnegative resolved
  have told : present = now.totalNanos := eq_of_epochNanos? presented
  rw [← told] at order
  simp only [min_eq_left order, max_eq_right order]
  exact ⟨opened, presented, told, order⟩

/-- The last moment of 29 February 1968 on a clock an hour ahead, before the epoch. -/
def leapDay : Instant :=
  .ofEpoch (-57978001) 999999999 3600

/-- No quarters back is the start of the day, not a quarter in the future. -/
theorem readSince_quartersAgo :
    Lexis.tokenize "0 quarters ago" = .ok (agoTokens "0" "quarters" .quarter .calendars) ∧
      readSince leapDay (agoTokens "0" "quarters" .quarter .calendars) =
          .ok ⟨-58064400000000000, -57978000000000001⟩ [] ∧
        readBound leapDay .opening (agoTokens "0" "quarters" .quarter .calendars) =
            .ok (-58064400000000000) [] ∧
          (-57978000000000001 : Int) = leapDay.totalNanos := by
  have tokenized : Lexis.tokenize "0 quarters ago" =
      .ok (agoTokens "0" "quarters" .quarter .calendars) := by
    decide +kernel
  have read : readSince leapDay (agoTokens "0" "quarters" .quarter .calendars) =
      .ok ⟨-58064400000000000, -57978000000000001⟩ [] := by
    rfl
  have bounds := readSince_of_tokenize tokenized (by decide) (List.Subset.refl _)
    (by decide +kernel) (by decide +kernel) read
  exact ⟨tokenized, read, bounds.1, bounds.2.2.1⟩

end Grammar

end FindQuery
