import FindQuery.Proofs.Grammar.Shape

/-!
# Reading references and ranges of time

Whatever is read as a reference spells it, and every spelling in coherent tokens is read,
whatever follows.  A bound is a reference that names a 64-bit time, and a range of time is
one bound up to the present or two bounds with `AND` between them.
-/

namespace FindQuery.Grammar

open FindQuery.Number
open FindQuery.Time

/-! ## References -/

theorem Shape.IsSpelledBy.spellsReference
    {shape : Shape} {phrase : List Token}
    (spelled : shape.IsSpelledBy phrase) :
    SpellsReference phrase shape.reference := by
  cases shape with
  | forever =>
      rcases spelled with _ | ⟨isForever, _ | _⟩
      exact .forever _ isForever
  | yesterday =>
      rcases spelled with _ | ⟨isYesterday, _ | _⟩
      exact .yesterday _ isYesterday
  | dayBeforeYesterday =>
      rcases spelled with _ | ⟨isDay, _ | ⟨isBefore, _ | ⟨isYesterday, _ | _⟩⟩⟩
      exact .dayBeforeYesterday _ _ _ isDay isBefore isYesterday
  | last unit =>
      rcases spelled with _ | ⟨isLast, _ | ⟨isUnit, _ | _⟩⟩
      exact .last _ _ unit (.inl isLast) isUnit
  | previous unit =>
      rcases spelled with _ | ⟨isPrevious, _ | ⟨isUnit, _ | _⟩⟩
      exact .last _ _ unit (.inr isPrevious) isUnit
  | beforeLast unit =>
      rcases spelled with _ | ⟨isUnit, _ | ⟨isBefore, _ | ⟨isLast, _ | _⟩⟩⟩
      exact .beforeLast _ _ _ unit isUnit isBefore isLast
  | ago count unit =>
      rcases spelled with _ | ⟨⟨-, isInt, counted⟩, _ | ⟨isUnit, _ | ⟨isAgo, _ | _⟩⟩⟩
      exact .ago _ _ _ count unit isInt counted isUnit isAgo
  | stamp text =>
      rcases spelled with _ | ⟨⟨-, isString, rfl⟩, _ | _⟩
      exact .stamp _ isString

/-- In coherent tokens what is tagged as a literal is one. -/
theorem SpellsReference.exists_shape
    {used : List Token} {reference : Reference}
    (spelled : SpellsReference used reference)
    (coherent : ∀ token ∈ used, IsCoherent token) :
    ∃ shape, Shape.IsSpelledBy shape used ∧ shape.reference = reference := by
  cases spelled with
  | forever word isForever => exact ⟨.forever, .cons isForever .nil, rfl⟩
  | yesterday word isYesterday => exact ⟨.yesterday, .cons isYesterday .nil, rfl⟩
  | dayBeforeYesterday day before yesterday isDay isBefore isYesterday =>
      exact ⟨.dayBeforeYesterday, .cons isDay (.cons isBefore (.cons isYesterday .nil)), rfl⟩
  | last word name unit isLast isUnit =>
      rcases isLast with isLast | isPrevious
      · exact ⟨.last unit, .cons isLast (.cons isUnit .nil), rfl⟩
      · exact ⟨.previous unit, .cons isPrevious (.cons isUnit .nil), rfl⟩
  | beforeLast name before last unit isUnit isBefore isLast =>
      exact ⟨.beforeLast unit, .cons isUnit (.cons isBefore (.cons isLast .nil)), rfl⟩
  | ago number name word count unit isInt counted isUnit isAgo =>
      have isLiteral : number.kind = .literal :=
        (coherent number (by simp)).2 (by rw [isInt]; rfl)
      exact ⟨.ago count unit,
        .cons ⟨isLiteral, isInt, counted⟩ (.cons isUnit (.cons isAgo .nil)), rfl⟩
  | stamp text isString =>
      have isLiteral : text.kind = .literal :=
        (coherent text (by simp)).2 (by rw [isString]; rfl)
      exact ⟨.stamp text.text, .cons ⟨isLiteral, isString, rfl⟩ .nil, rfl⟩

theorem spellsReference_of_readReference
    {tokens rest : List Token} {reference : Reference}
    (read : readReference tokens = .ok reference rest) :
    ∃ used, tokens = used ++ rest ∧ SpellsReference used reference := by
  rcases (readReference_eq_ok_iff_isSpelledBy _ _ _).1 read with
    ⟨shape, used, split, spelled, rfl⟩
  exact ⟨used, split, spelled.spellsReference⟩

theorem readReference_of_spellsReference
    {used : List Token} {reference : Reference}
    (spelled : SpellsReference used reference)
    (coherent : ∀ token ∈ used, IsCoherent token)
    (rest : List Token) :
    readReference (used ++ rest) = .ok reference rest := by
  rcases spelled.exists_shape coherent with ⟨shape, shaped, rfl⟩
  exact readReference_of_isSpelledBy shaped rest

/-! ## Bounds and ranges -/

/-- A bound is a reference that names a 64-bit time. -/
theorem readBound_eq_ok_iff
    (now : Instant) (bound : Bound) (tokens rest : List Token) (nanos : Int) :
    readBound now bound tokens = .ok nanos rest ↔
      ∃ reference,
        readReference tokens = .ok reference rest ∧
          reference.resolve? now bound = some nanos := by
  constructor
  · intro read
    simp only [readBound] at read
    split at read
    · cases read
    · rename_i reference later readHere
      split at read
      · rename_i resolved
        cases read
        exact ⟨reference, readHere, resolved⟩
      · cases read
  · rintro ⟨reference, readHere, resolved⟩
    simp [readBound, readHere, resolved]

/-- The present is a bound that takes no token. -/
theorem readNow_eq_ok_iff
    (now : Instant) (tokens rest : List Token) (nanos : Int) :
    readNow now tokens = .ok nanos rest ↔
      now.epochNanos? = some nanos ∧ tokens = rest := by
  rw [readNow]
  cases present : now.epochNanos? with
  | none => simp
  | some found => simp

/-- A range holds its bounds in order. -/
theorem ofBounds_eq_min_max (first second : Int) :
    TimeRange.ofBounds first second = ⟨min first second, max first second⟩ := by
  rw [TimeRange.ofBounds]
  split
  · rw [Int.min_eq_right (by omega), Int.max_eq_left (by omega)]
  · rw [Int.min_eq_left (by omega), Int.max_eq_right (by omega)]

/-- After `SINCE` stands an opening bound; the present is the other one. -/
theorem readSince_eq_ok_iff
    (now : Instant) (tokens rest : List Token) (range : TimeRange) :
    readSince now tokens = .ok range rest ↔
      ∃ opening present,
        readBound now .opening tokens = .ok opening rest ∧
          now.epochNanos? = some present ∧
            range = ⟨min opening present, max opening present⟩ := by
  constructor
  · intro read
    rcases (bind_eq_ok_iff _ _ _ _ _).1 read with ⟨opening, middle, readOpening, run⟩
    rcases (bind_eq_ok_iff _ _ _ _ _).1 run with ⟨present, later, readPresent, run⟩
    rcases (pure_eq_ok_iff _ _ _ _).1 run with ⟨rfl, rfl⟩
    rcases (readNow_eq_ok_iff _ _ _ _).1 readPresent with ⟨presented, rfl⟩
    exact ⟨opening, present, readOpening, presented, ofBounds_eq_min_max _ _⟩
  · rintro ⟨opening, present, readOpening, presented, rfl⟩
    have readPresent := (readNow_eq_ok_iff now rest rest present).2 ⟨presented, rfl⟩
    apply (bind_eq_ok_iff _ _ _ _ _).2
    refine ⟨opening, rest, readOpening, (bind_eq_ok_iff _ _ _ _ _).2 ?_⟩
    refine ⟨present, rest, readPresent, (pure_eq_ok_iff _ _ _ _).2 ⟨?_, rfl⟩⟩
    exact ofBounds_eq_min_max opening present

/-- After `BETWEEN` stand an opening and a closing bound with `AND` between them. -/
theorem readBetween_eq_ok_iff
    (now : Instant) (tokens rest : List Token) (range : TimeRange) :
    readBetween now tokens = .ok range rest ↔
      ∃ opening closing joint middle,
        readBound now .opening tokens = .ok opening (joint :: middle) ∧
          joint.kind = .and ∧
            readBound now .closing middle = .ok closing rest ∧
              range = ⟨min opening closing, max opening closing⟩ := by
  constructor
  · intro read
    rcases (bind_eq_ok_iff _ _ _ _ _).1 read with ⟨opening, afterFirst, readFirst, run⟩
    rcases (bind_eq_ok_iff _ _ _ _ _).1 run with ⟨joined, afterJoint, eaten, choice⟩
    cases joined with
    | false => cases choice
    | true =>
        rcases (eat_eq_ok_true_iff _ _ _).1 eaten with ⟨joint, isAnd, rfl⟩
        rcases (bind_eq_ok_iff _ _ _ _ _).1 choice with ⟨closing, later, readSecond, ending⟩
        rcases (pure_eq_ok_iff _ _ _ _).1 ending with ⟨rfl, rfl⟩
        exact ⟨opening, closing, joint, afterJoint, readFirst, isAnd, readSecond,
          ofBounds_eq_min_max _ _⟩
  · rintro ⟨opening, closing, joint, middle, readFirst, isAnd, readSecond, rfl⟩
    have joined := (eat_eq_ok_true_iff .and (joint :: middle) _).2 ⟨joint, isAnd, rfl⟩
    apply (bind_eq_ok_iff _ _ _ _ _).2
    refine ⟨opening, _, readFirst, (bind_eq_ok_iff _ _ _ _ _).2 ?_⟩
    refine ⟨true, _, joined, (bind_eq_ok_iff _ _ _ _ _).2 ?_⟩
    refine ⟨closing, _, readSecond, (pure_eq_ok_iff _ _ _ _).2 ⟨?_, rfl⟩⟩
    exact ofBounds_eq_min_max opening closing

/-- The first token of a range says which of the two forms it has. -/
theorem readRange_eq_ok_iff
    (now : Instant) (tokens rest : List Token) (range : TimeRange) :
    readRange now tokens = .ok range rest ↔
      ∃ word later, tokens = word :: later ∧
        (word.kind = .since ∧ readSince now later = .ok range rest ∨
          word.kind = .between ∧ readBetween now later = .ok range rest) := by
  constructor
  · intro read
    rcases (bind_eq_ok_iff _ _ _ _ _).1 read with ⟨isSince, middle, eaten, run⟩
    cases isSince with
    | true =>
        rcases (eat_eq_ok_true_iff _ _ _).1 eaten with ⟨word, isSince, rfl⟩
        exact ⟨word, middle, rfl, .inl ⟨isSince, run⟩⟩
    | false =>
        rcases (eat_eq_ok_false_iff _ _ _).1 eaten with ⟨-, rfl⟩
        rcases (bind_eq_ok_iff _ _ _ _ _).1 run with ⟨isBetween, after, eatenNext, ending⟩
        cases isBetween with
        | false => cases ending
        | true =>
            rcases (eat_eq_ok_true_iff _ _ _).1 eatenNext with ⟨word, isBetween, rfl⟩
            exact ⟨word, after, rfl, .inr ⟨isBetween, ending⟩⟩
  · rintro ⟨word, later, rfl, ⟨isSince, run⟩ | ⟨isBetween, run⟩⟩
    · have eaten := (eat_eq_ok_true_iff .since (word :: later) _).2 ⟨word, isSince, rfl⟩
      exact (bind_eq_ok_iff _ _ _ _ _).2 ⟨true, later, eaten, run⟩
    · have notSince := (eat_eq_ok_false_iff .since (word :: later) _).2
        ⟨by simp [startsWith, isBetween], rfl⟩
      have eaten := (eat_eq_ok_true_iff .between (word :: later) _).2 ⟨word, isBetween, rfl⟩
      apply (bind_eq_ok_iff _ _ _ _ _).2
      refine ⟨false, _, notSince, (bind_eq_ok_iff _ _ _ _ _).2 ?_⟩
      exact ⟨true, later, eaten, run⟩

theorem spellsReference_of_readBound
    {now : Instant} {bound : Bound} {tokens rest : List Token} {nanos : Int}
    (read : readBound now bound tokens = .ok nanos rest) :
    ∃ used reference,
      tokens = used ++ rest ∧ SpellsReference used reference ∧
        reference.resolve? now bound = some nanos := by
  rcases (readBound_eq_ok_iff _ _ _ _ _).1 read with ⟨reference, readHere, resolved⟩
  rcases spellsReference_of_readReference readHere with ⟨used, split, spelled⟩
  exact ⟨used, reference, split, spelled, resolved⟩

/-- A reference that names a 64-bit time is read as a bound, whatever follows it. -/
theorem readBound_of_spellsReference
    {now : Instant} {bound : Bound} {used : List Token} {reference : Reference} {nanos : Int}
    (spelled : SpellsReference used reference)
    (resolved : reference.resolve? now bound = some nanos)
    (coherent : ∀ token ∈ used, IsCoherent token)
    (rest : List Token) :
    readBound now bound (used ++ rest) = .ok nanos rest :=
  (readBound_eq_ok_iff _ _ _ _ _).2
    ⟨reference, readReference_of_spellsReference spelled coherent rest, resolved⟩

theorem spellsRange_of_readRange
    {now : Instant} {tokens rest : List Token} {range : TimeRange}
    (read : readRange now tokens = .ok range rest) :
    ∃ used, tokens = used ++ rest ∧ SpellsRange now used range := by
  rcases (readRange_eq_ok_iff _ _ _ _).1 read with
    ⟨word, later, rfl, ⟨isSince, run⟩ | ⟨isBetween, run⟩⟩
  · rcases (readSince_eq_ok_iff _ _ _ _).1 run with ⟨opening, present, readOpening, presented, rfl⟩
    rcases spellsReference_of_readBound readOpening with ⟨used, reference, rfl, spelled, resolved⟩
    exact ⟨word :: used, rfl, .since word isSince spelled resolved presented⟩
  · rcases (readBetween_eq_ok_iff _ _ _ _).1 run with
      ⟨opening, closing, joint, middle, readFirst, isAnd, readSecond, rfl⟩
    rcases spellsReference_of_readBound readFirst with
      ⟨firstTokens, first, rfl, firstSpelled, firstResolved⟩
    rcases spellsReference_of_readBound readSecond with
      ⟨secondTokens, second, rfl, secondSpelled, secondResolved⟩
    exact ⟨word :: (firstTokens ++ joint :: secondTokens), by simp,
      .between word isBetween firstSpelled firstResolved joint isAnd
        secondSpelled secondResolved⟩

theorem readRange_of_spellsRange
    {now : Instant} {used : List Token} {range : TimeRange}
    (spelled : SpellsRange now used range)
    (coherent : ∀ token ∈ used, IsCoherent token)
    (rest : List Token) :
    readRange now (used ++ rest) = .ok range rest := by
  apply (readRange_eq_ok_iff _ _ _ _).2
  cases spelled with
  | @since tokens reference opening present word isSince spelled resolved presented =>
      have readOpening := readBound_of_spellsReference spelled resolved
        (fun token member => coherent token (by simp [member])) rest
      refine ⟨word, tokens ++ rest, rfl, .inl ⟨isSince, ?_⟩⟩
      exact (readSince_eq_ok_iff _ _ _ _).2
        ⟨opening, present, readOpening, presented, rfl⟩
  | @between firstTokens secondTokens first second opening closing word isBetween
      firstSpelled firstResolved joint isAnd secondSpelled secondResolved =>
      have readFirst := readBound_of_spellsReference firstSpelled firstResolved
        (fun token member => coherent token (by simp [member]))
        (joint :: (secondTokens ++ rest))
      have readSecond := readBound_of_spellsReference secondSpelled secondResolved
        (fun token member => coherent token (by simp [member])) rest
      refine ⟨word, firstTokens ++ joint :: (secondTokens ++ rest), by simp,
        .inr ⟨isBetween, ?_⟩⟩
      exact (readBetween_eq_ok_iff _ _ _ _).2
        ⟨opening, closing, joint, secondTokens ++ rest, readFirst, isAnd, readSecond, rfl⟩

end FindQuery.Grammar
