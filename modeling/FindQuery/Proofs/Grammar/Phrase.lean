import FindQuery.Proofs.Grammar.Relabelling
import FindQuery.Proofs.Time.Period

/-!
# Phrases of time apart from what follows

A reader of references takes the tokens of one reference and does not look beyond them,
so the same phrase is read in the same way before any other tokens and at any other
place.  A phrase can therefore stand on both sides of `AND`, and the range between it and
itself is the period that it names.
-/

namespace FindQuery.Grammar

open FindQuery.Number
open FindQuery.Time

/-- A reference is read from the tokens of its phrase, whatever follows them. -/
theorem exists_phrase_of_readReference
    {tokens rest : List Token} {reference : Reference}
    (read : readReference tokens = .ok reference rest) :
    ∃ phrase, tokens = phrase ++ rest ∧
      ∀ after, readReference (phrase ++ after) = .ok reference after := by
  rcases (readReference_eq_ok_iff_isSpelledBy _ _ _).1 read with
    ⟨shape, phrase, split, spelled, rfl⟩
  exact ⟨phrase, split, readReference_of_isSpelledBy spelled⟩

/-- A copy of the phrase of a reference is read as the reference, whatever follows it. -/
theorem readReference_copy
    {phrase : List Token} {reference : Reference}
    (read : ∀ after, readReference (phrase ++ after) = .ok reference after)
    {copy : List Token} (same : copy.map Token.contents = phrase.map Token.contents)
    (after : List Token) :
    readReference (copy ++ after) = .ok reference after := by
  have whole := read []
  rw [List.append_nil] at whole
  rcases (mirrors_readReference isRelabelling_unplaced).exists_read same whole with
    ⟨left, readCopy, nothing⟩
  obtain rfl : left = [] := List.map_eq_nil_iff.1 nothing
  rcases exists_phrase_of_readReference readCopy with ⟨taken, split, again⟩
  rw [List.append_nil] at split
  rw [split]
  exact again after

/--
A reference that names a bound of either kind opens no later than it closes, and the
range between the reference and itself goes from the one bound to the other as they are.
-/
theorem readRange_between_self
    {now : Instant} (ordinary : now.clock.IsOrdinary)
    {tokens rest closingRest : List Token} {opening closing : Int}
    (opened : readBound now .opening tokens = .ok opening rest)
    (closed : readBound now .closing tokens = .ok closing closingRest) :
    opening ≤ closing ∧
      ∃ phrase, tokens = phrase ++ rest ∧
        ∀ word joint copy after, word.kind = .between → joint.kind = .and →
          copy.map Token.contents = phrase.map Token.contents →
            readRange now (word :: (phrase ++ joint :: (copy ++ after))) =
              .ok ⟨opening, closing⟩ after := by
  rcases (readBound_eq_ok_iff _ _ _ _ _).1 opened with ⟨reference, read, resolved⟩
  rcases (readBound_eq_ok_iff _ _ _ _ _).1 closed with ⟨same, readAgain, resolvedAgain⟩
  rw [read] at readAgain
  cases readAgain
  have order := resolve?_opening_le_closing ordinary resolved resolvedAgain
  rcases exists_phrase_of_readReference read with ⟨phrase, split, again⟩
  refine ⟨order, phrase, split, ?_⟩
  intro word joint copy after isBetween isAnd same
  have first := (readBound_eq_ok_iff now .opening (phrase ++ joint :: (copy ++ after)) _ _).2
    ⟨reference, again _, resolved⟩
  have second := (readBound_eq_ok_iff now .closing (copy ++ after) _ _).2
    ⟨reference, readReference_copy again same after, resolvedAgain⟩
  apply (readRange_eq_ok_iff _ _ _ _).2
  refine ⟨word, _, rfl, .inr ⟨isBetween, ?_⟩⟩
  apply (readBetween_eq_ok_iff _ _ _ _).2
  refine ⟨opening, closing, joint, copy ++ after, first, isAnd, second, ?_⟩
  rw [Int.min_eq_left order, Int.max_eq_right order]

/-- The tokens of `1 month ago`. -/
def monthAgoTokens : List Token :=
  [⟨.literal, .int, "1", ⟨0, 1⟩⟩, ⟨.month, .calendar, "month", ⟨2, 7⟩⟩,
    ⟨.ago, .relative, "ago", ⟨8, 11⟩⟩]

/-- Nine o'clock on 31 March 2023. -/
def endOfMarch : Instant :=
  .ofEpoch 1680253200 0 0

/-- A month back from 31 March lies 28 February, and the month closes with 30 March. -/
theorem readRange_between_monthAgo :
    readBound endOfMarch .opening monthAgoTokens = .ok 1677542400000000000 [] ∧
      readBound endOfMarch .closing monthAgoTokens = .ok 1680220799999999999 [] ∧
        ∃ phrase, monthAgoTokens = phrase ++ [] ∧
          ∀ word joint copy after, word.kind = .between → joint.kind = .and →
            copy.map Token.contents = phrase.map Token.contents →
              readRange endOfMarch (word :: (phrase ++ joint :: (copy ++ after))) =
                .ok ⟨1677542400000000000, 1680220799999999999⟩ after := by
  have ordinary : endOfMarch.clock.IsOrdinary := by decide
  have read : readReference monthAgoTokens = .ok (.back (.calendar .month) 1) [] := by
    rfl
  have opened := (readBound_eq_ok_iff endOfMarch .opening monthAgoTokens [] _).2
    ⟨_, read, show Reference.resolve? _ _ _ = some 1677542400000000000 by decide +kernel⟩
  have closed := (readBound_eq_ok_iff endOfMarch .closing monthAgoTokens [] _).2
    ⟨_, read, show Reference.resolve? _ _ _ = some 1680220799999999999 by decide +kernel⟩
  exact ⟨opened, closed, (readRange_between_self ordinary opened closed).2⟩

end FindQuery.Grammar
