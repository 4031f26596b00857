import FindQuery.Proofs.Lexis.Alignment

/-!
# Queries cut at their tokens

Since the scanner and the comment pass go from segment to segment together, a scan cuts
the segments of a query into the pieces of its tokens and the spaces between these.
`Cuts` says so of the whole run, and what the spans of the tokens have to do with the
query follows from it by induction.
-/

namespace FindQuery.Lexis

open FindQuery.Text

/-! ## The pieces of a token -/

/-- The segments that a token was read from, and the lexeme that they show. -/
structure Carries (pieces : List Segment) (lexeme : List Char) (token : Token) : Prop where
  shown : visibleOf pieces = lexeme
  nonempty : lexeme ≠ []
  isLexeme : IsLexeme token.tag lexeme
  meaning : interpret? token.tag lexeme = some (token.kind, token.text.toList)
  /-- A string is one quoted text that the comment pass protects. -/
  quoted : token.tag = .string → ∃ characters, pieces = [.quoted characters]
  /-- All other tokens are made of plain characters. -/
  plain : token.tag ≠ .string → pieces = lexeme.map .plain

theorem Carries.byteLength_pos
    {pieces : List Segment} {lexeme : List Char} {token : Token}
    (carries : Carries pieces lexeme token) :
    0 < byteLength (sourceOf pieces) := by
  rw [← byteLength_visibleOf, carries.shown]
  rcases List.exists_cons_of_ne_nil carries.nonempty with ⟨first, rest, rfl⟩
  have positive := first.utf8Size_pos
  rw [byteLength_cons]
  omega

theorem Carries.isComment_eq_false
    {pieces : List Segment} {lexeme : List Char} {token : Token}
    (carries : Carries pieces lexeme token) :
    ∀ segment ∈ pieces, segment.isComment = false := by
  intro segment member
  by_cases string : token.tag = .string
  · rcases carries.quoted string with ⟨characters, rfl⟩
    rw [List.mem_singleton.1 member]
    rfl
  · rw [carries.plain string] at member
    rcases List.mem_map.1 member with ⟨character, -, rfl⟩
    rfl

theorem Carries.spansOf_quoted
    {pieces : List Segment} {lexeme : List Char} {token : Token}
    (carries : Carries pieces lexeme token)
    (stops : token.span.stop = token.span.start + byteLength (sourceOf pieces)) :
    spansOf Segment.isQuoted (layout token.span.start pieces) =
      ([token].filter fun token => token.tag = .string).map Token.span := by
  by_cases string : token.tag = .string
  · rcases carries.quoted string with ⟨characters, rfl⟩
    rw [sourceOf_cons, sourceOf_nil, List.append_nil] at stops
    rw [List.filter_cons_of_pos (by simpa using string), List.filter_nil, List.map_singleton]
    simp only [spansOf, layout, Segment.isQuoted, List.filter_cons_of_pos, List.filter_nil,
      List.map_singleton, ← stops]
  · rw [List.filter_cons_of_neg (by simpa using string), List.filter_nil, List.map_nil]
    apply spansOf_eq_nil
    intro segment member
    rw [carries.plain string] at member
    rcases List.mem_map.1 member with ⟨character, -, rfl⟩
    rfl

/-- A lexeme that is shown takes up whole segments. -/
theorem exists_pieces
    {source rest lexeme : List Char} {token : Token}
    (shown : normalize source = lexeme ++ rest) (nonempty : lexeme ≠ [])
    (isLexeme : IsLexeme token.tag lexeme)
    (meaning : interpret? token.tag lexeme = some (token.kind, token.text.toList)) :
    ∃ pieces later,
      segments source = pieces ++ segments later ∧ normalize later = rest ∧
        Carries pieces lexeme token := by
  by_cases string : token.tag = .string
  · rcases isLexeme.exists_quotes string with ⟨quote, body, isOne, fresh, rfl⟩
    have whole : normalize source = quote :: (body ++ quote :: rest) := by
      simpa using shown
    rcases exists_quoted whole isOne fresh with ⟨characters, later, split, seen, rested⟩
    refine ⟨[.quoted characters], later, split, rested, ?_⟩
    exact {
      shown := by rw [visibleOf_cons, visibleOf_nil, List.append_nil, Segment.visible, seen]
      nonempty := nonempty
      isLexeme := isLexeme
      meaning := meaning
      quoted := fun _ => ⟨characters, rfl⟩
      plain := fun other => absurd string other }
  · have solid := isLexeme.isSolid string
    have plain : ∀ part ∈ lexeme, isBlank part = false ∧ isQuote part = false :=
      fun part member => ⟨solid.1 part member, solid.isQuote_eq_false part member⟩
    rcases exists_plain shown plain with ⟨later, split, rested⟩
    have seen : visibleOf (lexeme.map .plain) = lexeme := by
      have whole : visibleOf (lexeme.map .plain) ++ normalize later = lexeme ++ rest := by
        rw [← shown, ← visibleOf_segments, ← visibleOf_segments, split, visibleOf_append]
      rw [rested] at whole
      exact List.append_cancel_right whole
    refine ⟨lexeme.map .plain, later, split, rested, ?_⟩
    exact {
      shown := seen
      nonempty := nonempty
      isLexeme := isLexeme
      meaning := meaning
      quoted := fun other => absurd other string
      plain := fun _ => rfl }

/-! ## Runs -/

/--
Segments from an offset on, cut into tokens with spaces before them: the tokens, and
the offset and the segments that are left.
-/
inductive Cuts : Nat → List Segment → List Token → Nat → List Segment → Prop where
  | rest
      {gap : List Segment}
      (spaces : ∀ segment ∈ gap, segment.isSpace = true)
      (offset : Nat) (unread : List Segment) :
      Cuts offset (gap ++ unread) [] (offset + byteLength (sourceOf gap)) unread
  | token
      {offset stop : Nat} {gap pieces later unread : List Segment} {lexeme : List Char}
      {token : Token} {others : List Token}
      (spaces : ∀ segment ∈ gap, segment.isSpace = true)
      (carries : Carries pieces lexeme token)
      (starts : token.span.start = offset + byteLength (sourceOf gap))
      (stops : token.span.stop = token.span.start + byteLength (sourceOf pieces))
      (onward : Cuts token.span.stop later others stop unread) :
      Cuts offset (gap ++ (pieces ++ later)) (token :: others) stop unread

theorem eq_nil_of_normalize_eq_nil {text : List Char} (nothing : normalize text = []) :
    text = [] := by
  cases text with
  | nil => rfl
  | cons first rest =>
      rw [normalize_cons] at nothing
      exact absurd (List.append_eq_nil_iff.1 nothing).1 (visible_leadingSegment_ne_nil _ _)

/--
A scan cuts a query into its tokens.  It comes to the end of the query, or to the place
of its fault, where a segment that is no space stands.
-/
theorem exists_cuts_scan (offset : Nat) (source : List Char) :
    ∃ stop unread,
      Cuts offset (segments source) (scan ⟨offset, normalize source⟩).tokens stop
          (segments unread) ∧
        (∀ segment ∈ (segments unread).head?, segment.isSpace = false) ∧
          (((scan ⟨offset, normalize source⟩).fault? = none ∧ unread = []) ∨
            ∃ cause,
              (scan ⟨offset, normalize source⟩).fault? = some (cause, stop) ∧
                unread ≠ []) := by
  generalize position : (⟨offset, normalize source⟩ : Position) = start
  induction start using scan.induct generalizing offset source with
  | case1 start ended =>
      subst position
      rcases exists_skipBlanks offset source with ⟨gap, later, split, spaces, solid, skipped⟩
      have nothing := (step_eq_finished_iff _).1 ended
      rw [skipped] at nothing
      rw [scan_of_finished ended, split]
      exact ⟨_, later, .rest spaces offset _, solid,
        .inl ⟨rfl, eq_nil_of_normalize_eq_nil nothing⟩⟩
  | case2 start cause place failed =>
      subst position
      rcases exists_skipBlanks offset source with ⟨gap, later, split, spaces, solid, skipped⟩
      rcases (step_eq_fault_iff _ _ _).1 failed with ⟨nonempty, here, -⟩
      rw [skipped] at nonempty here
      rw [scan_of_fault failed, split, here]
      refine ⟨_, later, .rest spaces offset _, solid, .inr ⟨cause, rfl, ?_⟩⟩
      rintro rfl
      exact nonempty normalize_nil
  | case3 start token after read hypothesis =>
      subst position
      rcases exists_skipBlanks offset source with ⟨gap, later, split, spaces, -, skipped⟩
      rcases exists_lexeme_of_step read with
        ⟨lexeme, rest, shown, isLexeme, found, meaning, spanned, next⟩
      rw [skipped] at shown spanned next
      have nonempty : lexeme ≠ [] := List.length_pos_iff.1 (firstMatch?_pos found)
      rcases exists_pieces shown nonempty isLexeme meaning with
        ⟨pieces, following, cut, rested, carries⟩
      have size : byteLength lexeme = byteLength (sourceOf pieces) := by
        rw [← byteLength_visibleOf, carries.shown]
      have stops : token.span.stop = token.span.start + byteLength (sourceOf pieces) := by
        rw [spanned, next, size]
      have same : (⟨token.span.stop, normalize following⟩ : Position) = after := by
        rw [spanned, next, rested]
      rcases hypothesis _ following same with ⟨stop, unread, onward, solid, ended⟩
      rw [scan_of_token read, split, cut]
      exact ⟨stop, unread, .token spaces carries (by rw [spanned]) stops onward, solid, ended⟩

theorem isQuoted_eq_false_of_isSpace
    {gap : List Segment} (spaces : ∀ segment ∈ gap, segment.isSpace = true) :
    ∀ segment ∈ gap, segment.isQuoted = false := by
  intro segment member
  have space := spaces segment member
  cases segment with
  | plain character => rfl
  | quoted characters => cases space
  | comment characters => rfl

namespace Cuts

variable {offset stop : Nat} {pieces unread : List Segment} {tokens : List Token}

/-- What is left is the end of the segments. -/
theorem exists_passed (cuts : Cuts offset pieces tokens stop unread) :
    ∃ passed, pieces = passed ++ unread ∧ stop = offset + byteLength (sourceOf passed) := by
  induction cuts with
  | @rest gap spaces offset unread => exact ⟨gap, rfl, rfl⟩
  | @token offset stop gap pieces later unread lexeme token others spaces carries starts stops
      onward hypothesis =>
      rcases hypothesis with ⟨passed, rfl, rfl⟩
      refine ⟨gap ++ (pieces ++ passed), by simp, ?_⟩
      simp only [sourceOf_append, byteLength_append]
      omega

/-- A token stands where the segments it was read from do. -/
theorem exists_pieces (cuts : Cuts offset pieces tokens stop unread) :
    ∀ token ∈ tokens, ∃ passed carried later lexeme,
      pieces = passed ++ (carried ++ later) ∧ Carries carried lexeme token ∧
        token.span = ⟨offset + byteLength (sourceOf passed),
          offset + byteLength (sourceOf passed) + byteLength (sourceOf carried)⟩ := by
  induction cuts with
  | rest spaces offset unread => simp
  | @token offset stop gap pieces later unread lexeme first others spaces carries starts stops
      onward hypothesis =>
      intro token member
      rcases List.mem_cons.1 member with rfl | inOthers
      · refine ⟨gap, pieces, later, lexeme, rfl, carries, ?_⟩
        rw [← starts, ← stops]
      · rcases hypothesis token inOthers with
          ⟨passed, carried, following, shown, rfl, carriesToken, spanned⟩
        refine ⟨gap ++ (pieces ++ passed), carried, following, shown, by simp, carriesToken, ?_⟩
        simp only [sourceOf_append, byteLength_append]
        rw [spanned, stops, starts]
        simp only [Nat.add_assoc]

/-- A segment is a space, belongs to a token, or is left. -/
theorem mem_pieces (cuts : Cuts offset pieces tokens stop unread) :
    ∀ segment ∈ pieces,
      segment.isSpace = true ∨ segment ∈ unread ∨
        ∃ token ∈ tokens, ∃ carried lexeme, Carries carried lexeme token ∧ segment ∈ carried := by
  induction cuts with
  | rest spaces offset unread =>
      intro segment member
      rcases List.mem_append.1 member with inGap | inUnread
      · exact .inl (spaces segment inGap)
      · exact .inr (.inl inUnread)
  | @token offset stop gap pieces later unread lexeme token others spaces carries starts stops
      onward hypothesis =>
      intro segment member
      rw [List.mem_append, List.mem_append] at member
      rcases member with inGap | inPieces | inLater
      · exact .inl (spaces segment inGap)
      · exact .inr (.inr ⟨token, List.mem_cons_self, pieces, lexeme, carries, inPieces⟩)
      · rcases hypothesis segment inLater with space | inUnread | ⟨other, listed, inOther⟩
        · exact .inl space
        · exact .inr (.inl inUnread)
        · exact .inr (.inr ⟨other, List.mem_cons_of_mem _ listed, inOther⟩)

theorem le_start
    (cuts : Cuts offset pieces tokens stop unread) :
    ∀ token ∈ tokens, offset ≤ token.span.start := by
  intro token member
  rcases cuts.exists_pieces token member with ⟨passed, carried, later, lexeme, -, -, spanned⟩
  rw [spanned]
  exact Nat.le_add_right _ _

theorem stop_le (cuts : Cuts offset pieces tokens stop unread) :
    stop ≤ offset + byteLength (sourceOf pieces) := by
  rcases cuts.exists_passed with ⟨passed, rfl, rfl⟩
  rw [sourceOf_append, byteLength_append, ← Nat.add_assoc]
  exact Nat.le_add_right _ _

theorem start_lt_stop (cuts : Cuts offset pieces tokens stop unread) :
    ∀ token ∈ tokens, token.span.start < token.span.stop := by
  intro token member
  rcases cuts.exists_pieces token member with
    ⟨passed, carried, later, lexeme, -, carries, spanned⟩
  rw [spanned]
  exact Nat.lt_add_of_pos_right carries.byteLength_pos

/-- Every token takes a byte at least. -/
theorem add_length_le (cuts : Cuts offset pieces tokens stop unread) :
    offset + tokens.length ≤ stop := by
  induction cuts with
  | rest spaces offset unread => exact Nat.le_add_right _ _
  | token spaces carries starts stops onward hypothesis =>
      have positive := carries.byteLength_pos
      rw [List.length_cons]
      omega

/-- No comment covers a place where segments start with none. -/
theorem not_covers_comment
    {source : List Char} (cuts : Cuts offset pieces tokens stop (segments source))
    (solid : ∀ segment ∈ (segments source).head?, segment.isSpace = false) :
    ∀ comment ∈ spansOf Segment.isComment (layout offset pieces), ¬ comment.Covers stop := by
  rcases cuts.exists_passed with ⟨passed, rfl, rfl⟩
  rintro comment member ⟨low, high⟩
  rcases (mem_spansOf_iff _ _ _).1 member with ⟨segment, listed, isComment⟩
  rw [layout_append, List.mem_append] at listed
  rcases listed with inPassed | inUnread
  · have bounds := bounds_of_mem_layout inPassed
    omega
  · cases source with
    | nil =>
        rw [segments_nil] at inUnread
        cases inUnread
    | cons first rest =>
        rw [segments] at inUnread solid
        rcases List.mem_cons.1 inUnread with same | inLater
        · cases same
          have notSpace := solid _ rfl
          cases shape : leadingSegment first rest with
          | comment characters =>
              rw [shape] at notSpace
              cases notSpace
          | plain character =>
              rw [shape] at isComment
              cases isComment
          | quoted characters =>
              rw [shape] at isComment
              cases isComment
        · have bounds := bounds_of_mem_layout inLater
          have positive := byteLength_source_leadingSegment_pos first rest
          omega

/-- Tokens stand one after the other. -/
theorem pairwise (cuts : Cuts offset pieces tokens stop unread) :
    tokens.Pairwise fun earlier later => earlier.span.stop ≤ later.span.start := by
  induction cuts with
  | rest spaces offset unread => exact .nil
  | token spaces carries starts stops onward hypothesis => exact .cons onward.le_start hypothesis

/-- A byte before the place reached is one of a token or of a space. -/
theorem covered
    (cuts : Cuts offset pieces tokens stop unread) {place : Nat} (low : offset ≤ place)
    (high : place < stop) :
    (∃ token ∈ tokens, token.span.Covers place) ∨
      ∃ span segment,
        (span, segment) ∈ layout offset pieces ∧ segment.isSpace = true ∧
          span.Covers place := by
  induction cuts with
  | @rest gap spaces offset unread =>
      rcases exists_mem_layout low high with ⟨span, segment, member, covers⟩
      refine .inr ⟨span, segment, ?_, spaces segment (mem_of_mem_layout member), covers⟩
      rw [layout_append]
      exact List.mem_append_left _ member
  | @token offset stop gap pieces later unread lexeme token others spaces carries starts stops
      onward hypothesis =>
      rw [layout_append, layout_append, ← starts, ← stops]
      by_cases inGap : place < token.span.start
      · rcases exists_mem_layout low (starts ▸ inGap) with ⟨span, segment, member, covers⟩
        exact .inr ⟨span, segment, List.mem_append_left _ member,
          spaces segment (mem_of_mem_layout member), covers⟩
      · by_cases inToken : place < token.span.stop
        · exact .inl ⟨token, List.mem_cons_self, Nat.le_of_not_lt inGap, inToken⟩
        · rcases hypothesis (Nat.le_of_not_lt inToken) high with
            ⟨other, member, covers⟩ | ⟨span, segment, member, space, covers⟩
          · exact .inl ⟨other, List.mem_cons_of_mem _ member, covers⟩
          · exact .inr ⟨span, segment,
              List.mem_append_right _ (List.mem_append_right _ member), space, covers⟩

/-- The strings among the tokens are the quoted texts among the segments passed. -/
theorem spans_quoted (cuts : Cuts offset pieces tokens stop unread) :
    spansOf Segment.isQuoted (layout offset pieces) =
      (tokens.filter fun token => token.tag = .string).map Token.span ++
        spansOf Segment.isQuoted (layout stop unread) := by
  induction cuts with
  | @rest gap spaces offset unread =>
      rw [layout_append, spansOf_append, spansOf_eq_nil (isQuoted_eq_false_of_isSpace spaces)]
      rfl
  | @token offset stop gap pieces later unread lexeme token others spaces carries starts stops
      onward hypothesis =>
      rw [layout_append, layout_append, ← starts, ← stops, spansOf_append, spansOf_append,
        spansOf_eq_nil (isQuoted_eq_false_of_isSpace spaces), carries.spansOf_quoted stops,
        hypothesis, List.nil_append, ← List.append_assoc, ← List.map_append, ← List.filter_append,
        List.singleton_append]

end Cuts

end FindQuery.Lexis
