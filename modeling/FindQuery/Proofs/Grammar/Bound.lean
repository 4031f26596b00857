import FindQuery.Proofs.Grammar.Reference
import FindQuery.Proofs.Time.Distance
import FindQuery.Proofs.Time.Offset

/-!
# Bounds as they are read

What is known of the bounds of references is said here of the tokens that spell them.  A
reference is read whatever the present is and whatever follows it, so reading its bound fails
only where resolving it does, and then at its first token; where no reference stands nothing
is taken.  The offset of the present shifts a bound by itself; units counted back open where
exact arithmetic puts them, unless a number on the way has not 64 bits; and neighbouring units
meet.
-/

namespace FindQuery.Grammar

open FindQuery.Number
open FindQuery.Time

/-! ## The shapes of bounds -/

/-- The bound of a shape, or the refusal of its first token, with what follows it left. -/
theorem readBound_eq_of_isSpelledBy
    {shape : Shape} {phrase : List Token}
    (spelled : shape.IsSpelledBy phrase) (rest : List Token)
    (now : Instant) (bound : Bound) :
    readBound now bound (phrase ++ rest) =
      match shape.reference.resolve? now bound with
      | some nanos => .ok nanos rest
      | none => .error ⟨.invalidTemporalReference, phrase ++ rest⟩ rest := by
  have read := readReference_of_isSpelledBy spelled rest
  cases resolved : shape.reference.resolve? now bound with
  | none => simp only [readBound, read, resolved]
  | some nanos => simp only [readBound, read, resolved]

/-- A bound is read from a shape if its meaning is resolved to it and what follows is left. -/
theorem readBound_eq_ok_iff_of_isSpelledBy
    {shape : Shape} {phrase : List Token} (spelled : shape.IsSpelledBy phrase)
    {reference : Reference} (meant : shape.reference = reference) {rest left : List Token}
    {now : Instant} {bound : Bound} {nanos : Int} :
    readBound now bound (phrase ++ rest) = .ok nanos left ↔
      reference.resolve? now bound = some nanos ∧ left = rest := by
  rw [readBound_eq_of_isSpelledBy spelled, meant]
  cases reference.resolve? now bound with
  | none => simp
  | some found => simp [eq_comm]

/-- A bound that is read from a shape is the one that its meaning is resolved to. -/
theorem resolve?_of_readBound_of_isSpelledBy
    {shape : Shape} {phrase : List Token} (spelled : shape.IsSpelledBy phrase)
    {reference : Reference} (meant : shape.reference = reference) {rest left : List Token}
    {now : Instant} {bound : Bound} {nanos : Int}
    (read : readBound now bound (phrase ++ rest) = .ok nanos left) :
    reference.resolve? now bound = some nanos :=
  ((readBound_eq_ok_iff_of_isSpelledBy spelled meant).1 read).1

/--
Where a shape of a reference stands it is taken, whatever follows it, and what it means is
the bound or is refused; where none stands reading a bound fails and takes nothing.
-/
theorem readBound_takes_shape
    (now : Instant) (bound : Bound) (tokens : List Token) :
    (∀ shape phrase rest, Shape.IsSpelledBy shape phrase → tokens = phrase ++ rest →
        readBound now bound tokens =
          match shape.reference.resolve? now bound with
          | some nanos => .ok nanos rest
          | none => .error ⟨.invalidTemporalReference, tokens⟩ rest) ∧
      ((∀ shape phrase, Shape.IsSpelledBy shape phrase → ¬ phrase <+: tokens) →
        ∃ fault, readBound now bound tokens = .error fault tokens) := by
  constructor
  · rintro shape phrase rest spelled rfl
    exact readBound_eq_of_isSpelledBy spelled rest now bound
  · intro shapeless
    rcases exists_fault_of_not_isSpelledBy shapeless with ⟨fault, failed⟩
    exact ⟨fault, by rw [readBound, failed]⟩

/-- The tokens of `day before` and a last word. -/
def dayBeforeTokens (last : Token) : List Token :=
  [⟨.day, .calendar, "day", ⟨0, 3⟩⟩, ⟨.before, .relative, "before", ⟨4, 10⟩⟩, last]

/-- Half an hour before midnight of 31 March 2024. -/
def lateMarch : Moment :=
  ⟨1711927800, 0⟩

/--
The day before yesterday started on 29 March, `soon` is no timestamp, and there is no day
before a month.
-/
theorem readBound_dayBefore :
    readBound ⟨lateMarch, 0⟩ .opening
        (dayBeforeTokens ⟨.yesterday, .relative, "yesterday", ⟨11, 20⟩⟩) =
          .ok 1711670400000000000 [] ∧
      readBound ⟨lateMarch, 0⟩ .closing [⟨.literal, .string, "soon", ⟨0, 6⟩⟩] =
        .error ⟨.invalidTemporalReference, [⟨.literal, .string, "soon", ⟨0, 6⟩⟩]⟩ [] ∧
      ∃ fault, readBound ⟨lateMarch, 0⟩ .opening
          (dayBeforeTokens ⟨.month, .calendar, "month", ⟨11, 16⟩⟩) =
        .error fault (dayBeforeTokens ⟨.month, .calendar, "month", ⟨11, 16⟩⟩) := by
  have days : Shape.dayBeforeYesterday.IsSpelledBy
      (dayBeforeTokens ⟨.yesterday, .relative, "yesterday", ⟨11, 20⟩⟩) := by
    decide
  have stamp : (Shape.stamp "soon").IsSpelledBy [⟨.literal, .string, "soon", ⟨0, 6⟩⟩] := by
    decide
  have opens : Shape.dayBeforeYesterday.reference.resolve? ⟨lateMarch, 0⟩ .opening =
      some 1711670400000000000 := by
    decide +kernel
  have unstamped : (Shape.stamp "soon").reference.resolve? ⟨lateMarch, 0⟩ .closing = none := by
    decide +kernel
  have shapeless : ∀ shape phrase, Shape.IsSpelledBy shape phrase →
      ¬ phrase <+: dayBeforeTokens ⟨.month, .calendar, "month", ⟨11, 16⟩⟩ := by
    rintro shape phrase spelled ⟨rest, split⟩
    have read := readReference_of_isSpelledBy spelled rest
    rw [split] at read
    cases read
  have first := (readBound_takes_shape ⟨lateMarch, 0⟩ .opening _).1 _ _ [] days
    (List.append_nil _).symm
  have second := (readBound_takes_shape ⟨lateMarch, 0⟩ .closing _).1 _ _ [] stamp
    (List.append_nil _).symm
  rw [opens] at first
  rw [unstamped] at second
  exact ⟨first, second, (readBound_takes_shape ⟨lateMarch, 0⟩ .opening _).2 shapeless⟩

/-! ## References in coherent tokens -/

section

variable {used : List Token} {reference : Reference}

/-- The bound of a reference that is spelled, or the refusal of its first token. -/
theorem readBound_eq_of_spellsReference
    (spelled : SpellsReference used reference)
    (coherent : ∀ token ∈ used, IsCoherent token) (rest : List Token)
    (now : Instant) (bound : Bound) :
    readBound now bound (used ++ rest) =
      match reference.resolve? now bound with
      | some nanos => .ok nanos rest
      | none => .error ⟨.invalidTemporalReference, used ++ rest⟩ rest := by
  rcases spelled.exists_shape coherent with ⟨shape, shaped, rfl⟩
  exact readBound_eq_of_isSpelledBy shaped rest now bound

/-- A bound that is read is the one that its reference is resolved to. -/
theorem resolve?_of_readBound
    (spelled : SpellsReference used reference)
    (coherent : ∀ token ∈ used, IsCoherent token) {rest left : List Token}
    {now : Instant} {bound : Bound} {nanos : Int}
    (read : readBound now bound (used ++ rest) = .ok nanos left) :
    reference.resolve? now bound = some nanos := by
  rcases spelled.exists_shape coherent with ⟨shape, shaped, meant⟩
  exact resolve?_of_readBound_of_isSpelledBy shaped meant read

/-! ## The offset of the present -/

/--
At two presents whose clocks show the same, the bounds of a relative reference are as far
apart as the offsets of the clocks; an absolute reference has the same bounds at every
present.
-/
theorem readBound_sub_of_offset
    (spelled : SpellsReference used reference)
    (coherent : ∀ token ∈ used, IsCoherent token) (rest : List Token) (bound : Bound) :
    (¬ reference.IsAbsolute →
        ∀ clock offset otherOffset nanos otherNanos left otherLeft,
          readBound ⟨clock, offset⟩ bound (used ++ rest) = .ok nanos left →
            readBound ⟨clock, otherOffset⟩ bound (used ++ rest) = .ok otherNanos otherLeft →
              nanos - otherNanos = (otherOffset - offset) * secondNanos) ∧
      (reference.IsAbsolute →
        ∀ now other,
          readBound now bound (used ++ rest) = readBound other bound (used ++ rest)) := by
  constructor
  · intro relative clock offset otherOffset nanos otherNanos left otherLeft read otherRead
    have resolved := resolve?_of_readBound spelled coherent read
    have otherResolved := resolve?_of_readBound spelled coherent otherRead
    exact resolve?_sub_resolve? relative resolved otherResolved
  · intro absolute now other
    rw [readBound_eq_of_spellsReference spelled coherent,
      readBound_eq_of_spellsReference spelled coherent,
      resolve?_eq_of_isAbsolute absolute now other]

end

/-- The tokens of `last month`. -/
def lastMonthTokens : List Token :=
  [⟨.last, .relative, "last", ⟨0, 4⟩⟩, ⟨.month, .calendar, "month", ⟨5, 10⟩⟩]

/-- A timestamp with an offset of its own. -/
def indianTimestampTokens : List Token :=
  [⟨.literal, .string, "2024-02-29T23:30:00+05:30", ⟨0, 27⟩⟩]

/--
Fourteen hours ahead of universal time and twelve hours behind it, the month before 31 March
starts on 29 February of either clock; the timestamp is the same instant on both.
-/
theorem readBound_lastMonth_sub :
    readBound ⟨lateMarch, 50400⟩ .opening lastMonthTokens = .ok 1709114400000000000 [] ∧
      readBound ⟨lateMarch, -43200⟩ .opening lastMonthTokens = .ok 1709208000000000000 [] ∧
        (1709114400000000000 - 1709208000000000000 : Int) = (-43200 - 50400) * secondNanos ∧
          readBound ⟨lateMarch, 50400⟩ .closing indianTimestampTokens =
            readBound ⟨lateMarch, -43200⟩ .closing indianTimestampTokens := by
  have spelled : SpellsReference lastMonthTokens (.back (.calendar .month) 1) :=
    .last _ _ _ (.inl rfl) rfl
  have ahead : readBound ⟨lateMarch, 50400⟩ .opening lastMonthTokens =
      .ok 1709114400000000000 [] := by
    rfl
  have behind : readBound ⟨lateMarch, -43200⟩ .opening lastMonthTokens =
      .ok 1709208000000000000 [] := by
    rfl
  have apart := (readBound_sub_of_offset spelled (by decide) [] .opening).1 id
    _ _ _ _ _ _ _ ahead behind
  have stamped : SpellsReference indianTimestampTokens (.stamp "2024-02-29T23:30:00+05:30") :=
    .stamp _ rfl
  have absolute : (Reference.stamp "2024-02-29T23:30:00+05:30").IsAbsolute :=
    ⟨⟨⟨1709249400, 0⟩, 19800⟩, by decide +kernel⟩
  have same := (readBound_sub_of_offset stamped (by decide) [] .closing).2 absolute
    ⟨lateMarch, 50400⟩ ⟨lateMarch, -43200⟩
  exact ⟨ahead, behind, apart, same⟩

/-! ## Units counted back -/

/--
A unit counted back opens at the instant that exact arithmetic gives.  It is refused if that
instant has not 64 bits in nanoseconds since the epoch, and also if the count times the
length of the unit has not.
-/
theorem readBound_units_back
    {now : Instant} (ordinary : now.clock.IsOrdinary)
    {unit : TimeUnit} {length count before : Int} (counted : unit.length? = some length)
    (exact : unit.nanosBefore? now.clock count = some before) (nonnegative : 0 ≤ count)
    {used : List Token} (spelled : SpellsReference used (.back unit count))
    (coherent : ∀ token ∈ used, IsCoherent token) (rest : List Token) :
    (readBound now .opening (used ++ rest) =
          .error ⟨.invalidTemporalReference, used ++ rest⟩ rest ↔
        ¬ FitsInt64 (count * length) ∨ ¬ FitsInt64 (before - now.offset * secondNanos)) ∧
      (FitsInt64 (count * length) → FitsInt64 (before - now.offset * secondNanos) →
        readBound now .opening (used ++ rest) = .ok (before - now.offset * secondNanos) rest) := by
  rw [readBound_eq_of_spellsReference spelled coherent,
    resolve?_back_opening ordinary counted exact nonnegative]
  by_cases passes : FitsInt64 (count * length)
  · by_cases fits : FitsInt64 (before - now.offset * secondNanos)
    · simp [passes, fits, toInt64?]
    · simp [passes, fits, toInt64?]
  · simp [passes]

/-- The tokens of a count of units and `ago`, a space apart. -/
def agoTokens (number word : String) (unit : Kind) (tag : Tag) : List Token :=
  let first := number.utf8ByteSize
  let second := first + 1 + word.utf8ByteSize
  [⟨.literal, .int, number, ⟨0, first⟩⟩, ⟨unit, tag, word, ⟨first + 1, second⟩⟩,
    ⟨.ago, .relative, "ago", ⟨second + 1, second + 4⟩⟩]

/-- An afternoon of October 2026, a part of a second after 14:35:27. -/
def octoberAfternoon : Instant :=
  .ofEpoch 1792247727 123456789 0

/-- A second before the epoch. -/
def beforeEpoch : Instant :=
  .ofEpoch (-1) 0 0

/--
As many seconds, and as many months of thirty days, as have 64 bits in nanoseconds lead back
from 2026.  From before the epoch the seconds lead to an instant that has not 64 bits.
-/
theorem readBound_limitAgo :
    readBound octoberAfternoon .opening (agoTokens "9223372036" "seconds" .second .clocks) =
        .ok (-7431124308876543211) [] ∧
      readBound beforeEpoch .opening (agoTokens "9223372036" "seconds" .second .clocks) =
        .error ⟨.invalidTemporalReference,
          agoTokens "9223372036" "seconds" .second .clocks⟩ [] ∧
      readBound octoberAfternoon .opening (agoTokens "3558" "months" .month .calendars) =
        .ok (-7564492800000000000) [] := by
  have seconds : SpellsReference (agoTokens "9223372036" "seconds" .second .clocks)
      (.back (.clock .second) 9223372036) :=
    .ago _ _ _ _ _ rfl (by decide +kernel) rfl rfl
  have months : SpellsReference (agoTokens "3558" "months" .month .calendars)
      (.back (.calendar .month) 3558) :=
    .ago _ _ _ _ _ rfl (by decide +kernel) rfl rfl
  have ordinary : octoberAfternoon.clock.IsOrdinary := by decide
  have ordinaryBefore : beforeEpoch.clock.IsOrdinary := by decide
  have secondsBack := readBound_units_back ordinary rfl rfl (by decide) seconds (by decide) []
  have secondsBefore :=
    readBound_units_back ordinaryBefore rfl rfl (by decide) seconds (by decide) []
  have monthsBack := readBound_units_back ordinary rfl rfl (by decide) months (by decide) []
  exact ⟨secondsBack.2 (by decide) (by decide), secondsBefore.1.2 (.inr (by decide)),
    monthsBack.2 (by decide) (by decide +kernel)⟩

/--
The instants ten billion seconds and three hundred years before an afternoon of 2026 have 64
bits, but neither the seconds nor as many years of 365 days have them in nanoseconds.
-/
theorem readBound_refuses_representable :
    octoberAfternoon.clock.IsOrdinary ∧
      octoberAfternoon.epochNanos? = some 1792247727123456789 ∧
      (SpellsReference (agoTokens "10000000000" "seconds" .second .clocks)
            (.back (.clock .second) 10000000000) ∧
          TimeUnit.nanosBefore? octoberAfternoon.clock 10000000000 (.clock .second) =
            some (-8207752272876543211) ∧
          FitsInt64 (-8207752272876543211 - octoberAfternoon.offset * secondNanos) ∧
          readBound octoberAfternoon .opening
              (agoTokens "10000000000" "seconds" .second .clocks) =
            .error ⟨.invalidTemporalReference,
              agoTokens "10000000000" "seconds" .second .clocks⟩ []) ∧
      (SpellsReference (agoTokens "300" "years" .year .calendars)
            (.back (.calendar .year) 300) ∧
          TimeUnit.nanosBefore? octoberAfternoon.clock 300 (.calendar .year) =
            some (-7674912000000000000) ∧
          FitsInt64 (-7674912000000000000 - octoberAfternoon.offset * secondNanos) ∧
          readBound octoberAfternoon .opening (agoTokens "300" "years" .year .calendars) =
            .error ⟨.invalidTemporalReference,
              agoTokens "300" "years" .year .calendars⟩ []) := by
  refine ⟨by decide, by decide +kernel, ⟨?_, ?_, ?_, ?_⟩, ?_, ?_, ?_, ?_⟩
  · exact .ago _ _ _ _ _ rfl (by decide +kernel) rfl rfl
  · decide +kernel
  · decide
  · rfl
  · exact .ago _ _ _ _ _ rfl (by decide +kernel) rfl rfl
  · decide +kernel
  · decide
  · rfl

/-! ## Neighbouring units -/

/--
A unit counted back, from a second to a century, closes a nanosecond before the unit after it
opens.
-/
theorem readBound_closing_add_one
    {now : Instant} (ordinary : now.clock.IsOrdinary)
    {unit : TimeUnit} {count : Int} (counted : unit.length?.isSome = true)
    (positive : 1 ≤ count)
    {used usedNext : List Token} (spelled : SpellsReference used (.back unit count))
    (spelledNext : SpellsReference usedNext (.back unit (count - 1)))
    (coherent : ∀ token ∈ used, IsCoherent token)
    (coherentNext : ∀ token ∈ usedNext, IsCoherent token)
    {rest restNext left leftNext : List Token} {closing opening : Int}
    (closed : readBound now .closing (used ++ rest) = .ok closing left)
    (opened : readBound now .opening (usedNext ++ restNext) = .ok opening leftNext) :
    closing + 1 = opening := by
  rcases Option.isSome_iff_exists.1 counted with ⟨length, isLength⟩
  exact resolve?_closing_add_one ordinary isLength positive
    (resolve?_of_readBound spelled coherent closed)
    (resolve?_of_readBound spelledNext coherentNext opened)

/-- An early hour of 1 June 2023, on a clock whose offset is not a whole minute. -/
def juneMorning : Instant :=
  .ofEpoch 1685561400 0 20713

/-- The month three months back closes with March. -/
theorem readBound_monthsAgo_add_one :
    ∃ closing opening,
      readBound juneMorning .closing (agoTokens "3" "months" .month .calendars) =
          .ok closing [] ∧
        readBound juneMorning .opening (agoTokens "2" "months" .month .calendars) =
          .ok opening [] ∧
          opening = 1680286487000000000 ∧ closing + 1 = opening := by
  have closed : readBound juneMorning .closing (agoTokens "3" "months" .month .calendars) =
      .ok 1680286486999999999 [] := by
    rfl
  have opened : readBound juneMorning .opening (agoTokens "2" "months" .month .calendars) =
      .ok 1680286487000000000 [] := by
    rfl
  have spelled : SpellsReference (agoTokens "3" "months" .month .calendars)
      (.back (.calendar .month) 3) :=
    .ago _ _ _ _ _ rfl (by decide +kernel) rfl rfl
  have spelledNext : SpellsReference (agoTokens "2" "months" .month .calendars)
      (.back (.calendar .month) (3 - 1)) :=
    .ago _ _ _ _ _ rfl (by decide +kernel) rfl rfl
  have meet := readBound_closing_add_one (show juneMorning.clock.IsOrdinary by decide) rfl
    (by decide) spelled spelledNext (by decide) (by decide) closed opened
  exact ⟨_, _, closed, opened, rfl, meet⟩

end FindQuery.Grammar
