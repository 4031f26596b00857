import FindQuery.Proofs.Grammar.Statement
import FindQuery.Proofs.Time.Reference

/-!
# Queries at a later present

The present enters a query through the bounds of its range alone.  Read at a later
present on the same clock, a query asks for the same fields under the same condition,
and neither bound of its range is earlier.
-/

namespace FindQuery.Query

open FindQuery.Grammar
open FindQuery.Lexis
open FindQuery.Time

section

variable {now later : Instant}
  (sameOffset : now.offset = later.offset)
  (precedes : Moment.Precedes now.clock later.clock)

include sameOffset precedes

theorem readBound_mono
    {bound : Bound} {tokens rest laterRest : List Token} {nanos laterNanos : Int}
    (read : readBound now bound tokens = .ok nanos rest)
    (laterRead : readBound later bound tokens = .ok laterNanos laterRest) :
    nanos ≤ laterNanos ∧ rest = laterRest := by
  rcases (readBound_eq_ok_iff _ _ _ _ _).1 read with ⟨reference, spelled, resolved⟩
  rcases (readBound_eq_ok_iff _ _ _ _ _).1 laterRead with ⟨same, spelledAgain, laterResolved⟩
  rw [spelled] at spelledAgain
  cases spelledAgain
  exact ⟨resolve?_mono sameOffset precedes resolved laterResolved, rfl⟩

theorem epochNanos?_le
    {nanos laterNanos : Int} (presented : now.epochNanos? = some nanos)
    (laterPresented : later.epochNanos? = some laterNanos) :
    nanos ≤ laterNanos := by
  rcases now with ⟨clock, offset⟩
  rcases later with ⟨laterClock, laterOffset⟩
  cases sameOffset
  exact epochNanos?_mono precedes.totalNanos_le presented laterPresented

/-- Neither bound of a range is earlier, even where the bounds change places. -/
theorem readRange_mono
    {tokens rest laterRest : List Token} {range laterRange : TimeRange}
    (read : readRange now tokens = .ok range rest)
    (laterRead : readRange later tokens = .ok laterRange laterRest) :
    range.start ≤ laterRange.start ∧ range.stop ≤ laterRange.stop := by
  rcases (readRange_eq_ok_iff _ _ _ _).1 read with ⟨word, following, rfl, form⟩
  rcases (readRange_eq_ok_iff _ _ _ _).1 laterRead with ⟨sameWord, sameFollowing, split, laterForm⟩
  cases split
  rcases form with ⟨isSince, since⟩ | ⟨isBetween, between⟩
  · rcases laterForm with ⟨-, laterSince⟩ | ⟨isBetween, -⟩
    · rcases (readSince_eq_ok_iff _ _ _ _).1 since with ⟨opening, present, opened, presented, rfl⟩
      rcases (readSince_eq_ok_iff _ _ _ _).1 laterSince with
        ⟨laterOpening, laterPresent, laterOpened, laterPresented, rfl⟩
      have openings := (readBound_mono sameOffset precedes opened laterOpened).1
      have presents := epochNanos?_le sameOffset precedes presented laterPresented
      simp only
      omega
    · rw [isSince] at isBetween
      cases isBetween
  · rcases laterForm with ⟨isSince, -⟩ | ⟨-, laterBetween⟩
    · rw [isBetween] at isSince
      cases isSince
    · rcases (readBetween_eq_ok_iff _ _ _ _).1 between with
        ⟨opening, closing, joint, middle, opened, -, closed, rfl⟩
      rcases (readBetween_eq_ok_iff _ _ _ _).1 laterBetween with
        ⟨laterOpening, laterClosing, laterJoint, laterMiddle, laterOpened, -, laterClosed, rfl⟩
      rcases readBound_mono sameOffset precedes opened laterOpened with ⟨openings, sameRest⟩
      cases sameRest
      have closings := (readBound_mono sameOffset precedes closed laterClosed).1
      simp only
      omega

/--
Read at a later present on a clock of the same offset, a query asks for the same
fields under the same condition and hands on the same tokens, and neither bound of
its range is earlier.
-/
theorem parse_mono
    {query : String} {asked laterAsked : Query}
    (read : parse query now = .ok asked) (laterRead : parse query later = .ok laterAsked) :
    asked.fields = laterAsked.fields ∧ asked.all = laterAsked.all ∧
      asked.condition = laterAsked.condition ∧ asked.remainder = laterAsked.remainder ∧
        asked.range.start ≤ laterAsked.range.start ∧
          asked.range.stop ≤ laterAsked.range.stop := by
  rw [parse] at read laterRead
  cases tokenized : tokenize query with
  | error error =>
      rw [tokenized] at read
      cases read
  | ok tokens =>
      rw [tokenized] at read laterRead
      rcases (ofTokens_eq_ok_iff _ _ _ _).1 read with ⟨rest, statement⟩
      rcases (ofTokens_eq_ok_iff _ _ _ _).1 laterRead with ⟨laterRest, laterStatement⟩
      obtain ⟨word, following, afterSelection, afterCondition, all, fields, condition, range,
        split, -, selected, matched, ranged, -, rfl⟩ :=
          (readStatement_eq_ok_iff _ _ _ _ _).1 statement
      obtain ⟨sameWord, sameFollowing, sameSelection, sameCondition, laterAll, laterFields,
        laterCondition, laterRange, laterSplit, -, laterSelected, laterMatched, laterRanged, -,
        rfl⟩ := (readStatement_eq_ok_iff _ _ _ _ _).1 laterStatement
      -- All phrases before the range are read without the present.
      rw [split] at laterSplit
      cases laterSplit
      rw [selected] at laterSelected
      cases laterSelected
      rw [matched] at laterMatched
      cases laterMatched
      rcases readRange_mono sameOffset precedes ranged laterRanged with ⟨starts, stops⟩
      exact ⟨rfl, rfl, rfl, rfl, starts, stops⟩

end

/-- Noon of 30 March 2023, an hour ahead of universal time. -/
def marchNoon : Instant :=
  ⟨⟨1680177600, 0⟩, 3600⟩

/-- The midnight after it. -/
def marchMidnight : Instant :=
  ⟨⟨1680220800, 0⟩, 3600⟩

/-- A month before both of them is the start of the last day of February. -/
theorem parse_mono_endOfMarch :
    ∃ asked laterAsked,
      parse "find all since 1 month ago" marchNoon = .ok asked ∧
        parse "find all since 1 month ago" marchMidnight = .ok laterAsked ∧
          asked.range.start = 1677538800000000000 ∧
            asked.range.start ≤ laterAsked.range.start ∧
              asked.range.stop ≤ laterAsked.range.stop := by
  have read : parse "find all since 1 month ago" marchNoon =
      .ok ⟨[], true, none, ⟨1677538800000000000, 1680174000000000000⟩, []⟩ := by
    decide +kernel
  have laterRead : parse "find all since 1 month ago" marchMidnight =
      .ok ⟨[], true, none, ⟨1677538800000000000, 1680217200000000000⟩, []⟩ := by
    decide +kernel
  have sameOffset : marchNoon.offset = marchMidnight.offset := rfl
  have precedes : Moment.Precedes marchNoon.clock marchMidnight.clock :=
    ⟨by decide, by decide, by decide⟩
  rcases parse_mono sameOffset precedes read laterRead with ⟨-, -, -, -, starts, stops⟩
  exact ⟨_, _, read, laterRead, rfl, starts, stops⟩

end FindQuery.Query
