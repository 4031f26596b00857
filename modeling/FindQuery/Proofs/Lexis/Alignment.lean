import FindQuery.Proofs.Lexis.Lexeme
import FindQuery.Proofs.Lexis.Region

/-!
# The scanner and the comment pass in step

The comment pass cuts a query into segments before a token is read, and the scanner then
reads what the pass has left without knowing of segments.  Still they agree.  At the start
of a segment the scanner skips whole segments as blanks, namely comments and blank
characters, and then reads whole segments as a lexeme, namely one quoted text or as many
plain characters.  After each step it is at the start of a segment again.
-/

namespace FindQuery.Lexis

open FindQuery.Text

/-! ## What the pass shows -/

theorem straighten_of_isBlank_eq_false
    {character : Char} (visible : isBlank (Segment.straighten character) = false) :
    Segment.straighten character = character := by
  rw [Segment.straighten] at *
  split at visible
  · cases visible
  · rename_i straight
    rw [if_neg straight]

theorem isBlank_straighten (character : Char) :
    isBlank (Segment.straighten character) = isBlank character := by
  rw [Segment.straighten]
  split
  · rename_i blank
    rcases blank with rfl | rfl | rfl <;> decide
  · rfl

/-- A character that is shown and is no blank was written. -/
theorem eq_of_straighten_eq
    {original character : Char} (same : Segment.straighten original = character)
    (visible : isBlank character = false) :
    original = character := by
  rw [← same] at visible
  exact (straighten_of_isBlank_eq_false visible).symm.trans same

/-- A character that is no blank and is shown somewhere stands in the text. -/
theorem mem_of_mem_normalize
    {text : List Char} {character : Char} (shown : character ∈ normalize text)
    (visible : isBlank character = false) :
    character ∈ text := by
  rcases List.mem_flatMap.1 shown with ⟨segment, listed, inside⟩
  rw [← sourceOf_segments text]
  apply List.mem_flatMap.2
  refine ⟨segment, listed, ?_⟩
  cases segment with
  | plain original =>
      have same := List.mem_singleton.1 inside
      rw [eq_of_straighten_eq same.symm visible]
      exact List.mem_singleton.2 rfl
  | quoted characters =>
      rcases List.mem_map.1 inside with ⟨original, member, same⟩
      rw [← eq_of_straighten_eq same visible]
      exact member
  | comment characters =>
      rw [(List.mem_replicate.1 inside).2] at visible
      cases visible

/-- The first segment is a whole quoted text, or no quoted text starts here. -/
theorem leadingSegment_cases (first : Char) (rest : List Char) :
    (∃ body later,
        isQuote first = true ∧ first ∉ body ∧ rest = body ++ first :: later ∧
          leadingSegment first rest = .quoted (first :: (body ++ [first]))) ∨
      (quotedLength? (first :: rest) = none ∧
        ((∃ characters, characters ≠ [] ∧ leadingSegment first rest = .comment characters) ∨
          leadingSegment first rest = .plain first)) := by
  have positive := length_source_leadingSegment_pos first rest
  cases measured : quotedLength? (first :: rest) with
  | some length =>
      rcases (quotedLength?_eq_some_iff _ _).1 measured with
        ⟨quote, body, later, isOne, fresh, same, rfl⟩
      cases same
      exact .inl ⟨body, later, isOne, fresh, rfl, leadingSegment_of_quoted isOne fresh later⟩
  | none =>
      refine .inr ⟨rfl, ?_⟩
      rw [leadingSegment, measured] at positive ⊢
      cases commented : commentLength? (first :: rest) with
      | some length =>
          rw [commented] at positive
          exact .inl ⟨_, List.length_pos_iff.1 positive, rfl⟩
      | none => exact .inr rfl

/-! ## Skipping -/

theorem isBlank_of_mem_visible
    {segment : Segment} (space : segment.isSpace = true) :
    ∀ character ∈ segment.visible, isBlank character = true := by
  intro character member
  cases segment with
  | plain original =>
      rw [List.mem_singleton.1 member, isBlank_straighten]
      exact space
  | quoted characters => cases space
  | comment characters =>
      rw [(List.mem_replicate.1 member).2]
      decide

/-- A segment that is no space is shown from its first character on. -/
theorem exists_visible_leadingSegment
    {first : Char} {rest : List Char} (solid : (leadingSegment first rest).isSpace = false) :
    isBlank first = false ∧
      ∃ others, (leadingSegment first rest).visible = first :: others := by
  rcases leadingSegment_cases first rest with
    ⟨body, later, isOne, -, -, segment⟩ | ⟨-, ⟨characters, -, segment⟩ | segment⟩
  · rw [segment]
    refine ⟨isBlank_eq_false_of_isQuote isOne, (body ++ [first]).map Segment.straighten, ?_⟩
    rw [Segment.visible, List.map_cons, isStraight_of_isQuote isOne]
  · rw [segment] at solid
    cases solid
  · rw [segment] at solid ⊢
    refine ⟨solid, [], ?_⟩
    rw [Segment.visible, straighten_of_isBlank_eq_false]
    rw [isBlank_straighten]
    exact solid

/-- The segments of a text are spaces, and then those of a text that starts with none. -/
theorem exists_spaces (source : List Char) :
    ∃ gap later,
      segments source = gap ++ segments later ∧ (∀ segment ∈ gap, segment.isSpace = true) ∧
        ∀ segment ∈ (segments later).head?, segment.isSpace = false := by
  induction source using segments.induct with
  | case1 => exact ⟨[], [], rfl, by simp, by simp [segments_nil]⟩
  | case2 first rest segment hypothesis =>
      by_cases space : (leadingSegment first rest).isSpace = true
      · rcases hypothesis with ⟨gap, later, split, spaces, solid⟩
        refine ⟨leadingSegment first rest :: gap, later, ?_, ?_, solid⟩
        · rw [segments, List.cons_append]
          exact congrArg _ split
        · simpa using ⟨space, spaces⟩
      · refine ⟨[], first :: rest, rfl, by simp, ?_⟩
        rw [segments]
        simpa using space

theorem isBlank_eq_false_of_mem_head?_normalize
    {text : List Char} (solid : ∀ segment ∈ (segments text).head?, segment.isSpace = false) :
    ∀ first ∈ (normalize text).head?, isBlank first = false := by
  cases text with
  | nil => simp [normalize_nil]
  | cons first rest =>
      have notSpace : (leadingSegment first rest).isSpace = false := by
        apply solid
        rw [segments]
        rfl
      rcases exists_visible_leadingSegment notSpace with ⟨notBlank, others, shown⟩
      rw [normalize_cons, shown]
      simpa using notBlank

/-- Skipping blanks leads from segment to segment. -/
theorem exists_skipBlanks (offset : Nat) (source : List Char) :
    ∃ gap later,
      segments source = gap ++ segments later ∧ (∀ segment ∈ gap, segment.isSpace = true) ∧
        (∀ segment ∈ (segments later).head?, segment.isSpace = false) ∧
          (⟨offset, normalize source⟩ : Position).skipBlanks =
            ⟨offset + byteLength (sourceOf gap), normalize later⟩ := by
  rcases exists_spaces source with ⟨gap, later, split, spaces, solid⟩
  refine ⟨gap, later, split, spaces, solid, ?_⟩
  have blank : ∀ character ∈ visibleOf gap, isBlank character = true := by
    intro character member
    rcases List.mem_flatMap.1 member with ⟨segment, listed, inside⟩
    exact isBlank_of_mem_visible (spaces segment listed) character inside
  have whole : normalize source = visibleOf gap ++ normalize later := by
    rw [← visibleOf_segments, split, visibleOf_append, visibleOf_segments]
  rw [whole, skipBlanks_append blank, byteLength_visibleOf,
    skipBlanks_of_visible (isBlank_eq_false_of_mem_head?_normalize solid)]

/-! ## Reading -/

theorem visible_leadingSegment_ne_nil (first : Char) (rest : List Char) :
    (leadingSegment first rest).visible ≠ [] := by
  intro nothing
  have size := (leadingSegment first rest).byteLength_visible
  have positive := byteLength_source_leadingSegment_pos first rest
  rw [nothing, byteLength_nil] at size
  omega

/-- What is shown first and is no blank is the first character of the text. -/
theorem exists_source_of_visible
    {source rest : List Char} {first : Char} (shown : normalize source = first :: rest)
    (visible : isBlank first = false) :
    ∃ others, source = first :: others ∧ (leadingSegment first others).isSpace = false := by
  cases source with
  | nil => cases normalize_nil.symm.trans shown
  | cons original others =>
      rw [normalize_cons] at shown
      by_cases space : (leadingSegment original others).isSpace = true
      · rcases List.exists_cons_of_ne_nil (visible_leadingSegment_ne_nil original others) with
          ⟨head, tail, seen⟩
        have blank := isBlank_of_mem_visible space head (seen ▸ List.mem_cons_self)
        rw [seen] at shown
        cases (List.cons.inj shown).1
        rw [blank] at visible
        cases visible
      · have solid := eq_false_of_ne_true space
        rcases exists_visible_leadingSegment solid with ⟨-, tail, seen⟩
        rw [seen] at shown
        cases (List.cons.inj shown).1
        exact ⟨others, rfl, solid⟩

/-- Plain characters are shown one by one. -/
theorem exists_plain
    {piece rest source : List Char} (shown : normalize source = piece ++ rest)
    (solid : ∀ part ∈ piece, isBlank part = false ∧ isQuote part = false) :
    ∃ later, segments source = piece.map .plain ++ segments later ∧ normalize later = rest := by
  induction piece generalizing source with
  | nil => exact ⟨source, rfl, shown⟩
  | cons part others hypothesis =>
      rcases solid part List.mem_cons_self with ⟨notBlank, notQuote⟩
      rcases exists_source_of_visible shown notBlank with ⟨following, rfl, notSpace⟩
      rcases leadingSegment_cases part following with
        ⟨-, -, isOne, -⟩ | ⟨-, ⟨characters, -, segment⟩ | segment⟩
      · rw [isOne] at notQuote
        cases notQuote
      · rw [segment] at notSpace
        cases notSpace
      · have tail : normalize following = others ++ rest := by
          rw [normalize_cons, segment] at shown
          exact (List.cons.inj shown).2
        rcases hypothesis tail (fun other member =>
          solid other (List.mem_cons_of_mem _ member)) with ⟨later, split, rested⟩
        refine ⟨later, ?_, rested⟩
        rw [segments, segment]
        exact congrArg _ split

/-- A quoted text is shown where the comment pass protects one with the same quotes. -/
theorem exists_quoted
    {quote : Char} {body rest source : List Char}
    (shown : normalize source = quote :: (body ++ quote :: rest))
    (isOne : isQuote quote = true) (fresh : quote ∉ body) :
    ∃ characters later,
      segments source = .quoted characters :: segments later ∧
        characters.map Segment.straighten = quote :: (body ++ [quote]) ∧
          normalize later = rest := by
  have notBlank := isBlank_eq_false_of_isQuote isOne
  rcases exists_source_of_visible shown notBlank with ⟨following, rfl, notSpace⟩
  rcases leadingSegment_cases quote following with
    ⟨raw, later, -, rawFresh, rfl, segment⟩ | ⟨unclosed, ⟨characters, -, segment⟩ | segment⟩
  · have straightQuote : Segment.straighten quote = quote := isStraight_of_isQuote isOne
    have dropped : (quote :: (raw ++ quote :: later)).drop (quote :: (raw ++ [quote])).length =
        later := by
      rw [← enclosed_append quote quote raw later, List.drop_left]
    have straightFresh := not_mem_map_straighten isOne rawFresh
    have seen : raw.map Segment.straighten ++ quote :: normalize later =
        body ++ quote :: rest := by
      rw [normalize_cons, segment, Segment.source, dropped, Segment.visible] at shown
      simpa [straightQuote] using shown
    -- The next quote of the same kind ends both bodies.
    have sameBody : raw.map Segment.straighten = body := by
      have runs := congrArg (List.takeWhile (· != quote)) seen
      rwa [takeWhile_ne_quote straightFresh, takeWhile_ne_quote fresh] at runs
    rw [sameBody] at seen
    have sameRest := (List.cons.inj (List.append_cancel_left seen)).2
    refine ⟨quote :: (raw ++ [quote]), later, ?_, ?_, sameRest⟩
    · rw [segments, segment]
      exact congrArg _ (congrArg segments dropped)
    · simp [straightQuote, sameBody]
  · rw [segment] at notSpace
    cases notSpace
  · -- The closing quote is shown, so it stands in the text and the pass would have seen it.
    have tail : normalize following = body ++ quote :: rest := by
      rw [normalize_cons, segment] at shown
      exact (List.cons.inj shown).2
    have closing : quote ∈ following := by
      apply mem_of_mem_normalize _ notBlank
      rw [tail]
      simp
    rw [quotedLength?, if_pos ⟨isOne, closing⟩] at unclosed
    cases unclosed

end FindQuery.Lexis
