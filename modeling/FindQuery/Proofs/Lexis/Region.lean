import FindQuery.Proofs.Lexis.Comment
import FindQuery.Token

/-!
# The regions of a query

The comment pass cuts a query into segments, which take up its bytes from first to last.
`layout` gives every segment its bytes, and so the comments and the quoted texts of a
query have spans.  What the lexer sees of a segment has as many bytes as the segment, so
a place between segments is the same place in the query and in what the lexer sees.
-/

namespace FindQuery

open FindQuery.Text

/-! ## Spans -/

/-- Whether a byte is one of those of a span. -/
def Span.Covers (span : Span) (place : Nat) : Prop :=
  span.start ≤ place ∧ place < span.stop

instance (span : Span) (place : Nat) : Decidable (span.Covers place) :=
  inferInstanceAs (Decidable (_ ∧ _))

/-- The characters at the bytes of a span, `none` where the span ends inside a character. -/
def Span.slice? (span : Span) (text : List Char) : Option (List Char) :=
  (splitBytes? text span.start).bind fun parts =>
    (splitBytes? parts.2 (span.stop - span.start)).map Prod.fst

/-- A piece of a text is the slice at the bytes from its start to its end. -/
theorem Span.slice?_append (before piece after : List Char) :
    Span.slice? ⟨byteLength before, byteLength before + byteLength piece⟩
      (before ++ (piece ++ after)) = some piece := by
  rw [Span.slice?, splitBytes?_byteLength, Option.bind_some]
  simp only [Nat.add_sub_cancel_left, splitBytes?_byteLength, Option.map_some]

/-- A span that starts and ends with a piece of a text has the piece as its slice. -/
theorem Span.slice?_eq_some
    {span : Span} {text piece : List Char} (before after : List Char)
    (whole : text = before ++ (piece ++ after)) (start : span.start = byteLength before)
    (stop : span.stop = byteLength (before ++ piece)) :
    span.slice? text = some piece := by
  rcases span with ⟨first, last⟩
  cases start
  cases stop
  rw [whole, byteLength_append]
  exact Span.slice?_append before piece after

namespace Lexis

/-! ## Segments of a text -/

namespace Segment

/-- A comment. -/
def isComment : Segment → Bool
  | comment _ => true
  | _ => false

/-- A quoted text, which the comment pass protects. -/
def isQuoted : Segment → Bool
  | quoted _ => true
  | _ => false

/-- A segment that the lexer skips: a comment or a blank. -/
def isSpace : Segment → Bool
  | plain character => isBlank character
  | quoted _ => false
  | comment _ => true

end Segment

/-- The characters that some segments cover. -/
def sourceOf (pieces : List Segment) : List Char :=
  pieces.flatMap Segment.source

/-- What the lexer sees of some segments. -/
def visibleOf (pieces : List Segment) : List Char :=
  pieces.flatMap Segment.visible

@[simp]
theorem sourceOf_nil : sourceOf [] = [] := rfl

@[simp]
theorem sourceOf_cons (segment : Segment) (later : List Segment) :
    sourceOf (segment :: later) = segment.source ++ sourceOf later :=
  List.flatMap_cons

@[simp]
theorem sourceOf_append (pieces later : List Segment) :
    sourceOf (pieces ++ later) = sourceOf pieces ++ sourceOf later :=
  List.flatMap_append

@[simp]
theorem visibleOf_nil : visibleOf [] = [] := rfl

@[simp]
theorem visibleOf_cons (segment : Segment) (later : List Segment) :
    visibleOf (segment :: later) = segment.visible ++ visibleOf later :=
  List.flatMap_cons

@[simp]
theorem visibleOf_append (pieces later : List Segment) :
    visibleOf (pieces ++ later) = visibleOf pieces ++ visibleOf later :=
  List.flatMap_append

theorem visibleOf_segments (text : List Char) : visibleOf (segments text) = normalize text := rfl

theorem byteLength_straighten (text : List Char) :
    byteLength (text.map Segment.straighten) = byteLength text := by
  induction text with
  | nil => rfl
  | cons first rest hypothesis =>
      have same : (Segment.straighten first).utf8Size = first.utf8Size := by
        rw [Segment.straighten]
        split
        · rename_i blank
          rcases blank with rfl | rfl | rfl <;> decide
        · rfl
      rw [List.map_cons, byteLength_cons, byteLength_cons, same, hypothesis]

theorem byteLength_replicate_space (count : Nat) :
    byteLength (List.replicate count ' ') = count := by
  induction count with
  | zero => rfl
  | succ count hypothesis =>
      rw [List.replicate_succ, byteLength_cons, hypothesis, show ' '.utf8Size = 1 by decide]
      omega

/-- Nothing moves: what the lexer sees of a segment is as long as the segment. -/
theorem Segment.byteLength_visible (segment : Segment) :
    byteLength segment.visible = byteLength segment.source := by
  cases segment with
  | plain character => exact byteLength_straighten [character]
  | quoted characters => exact byteLength_straighten characters
  | comment characters => exact byteLength_replicate_space _

@[simp]
theorem byteLength_visibleOf (pieces : List Segment) :
    byteLength (visibleOf pieces) = byteLength (sourceOf pieces) := by
  induction pieces with
  | nil => rfl
  | cons segment later hypothesis =>
      rw [visibleOf_cons, sourceOf_cons, byteLength_append, byteLength_append,
        segment.byteLength_visible, hypothesis]

/-! ## The first segment -/

theorem segments_nil : segments [] = [] := by
  rw [segments]

theorem source_leadingSegment_isPrefix (first : Char) (rest : List Char) :
    (leadingSegment first rest).source <+: first :: rest := by
  rw [leadingSegment]
  split
  · exact List.take_prefix _ _
  · split
    · exact List.take_prefix _ _
    · exact ⟨rest, rfl⟩

theorem byteLength_source_leadingSegment_pos (first : Char) (rest : List Char) :
    0 < byteLength (leadingSegment first rest).source := by
  have positive := length_source_leadingSegment_pos first rest
  rcases List.exists_cons_of_length_pos positive with ⟨opening, inside, covered⟩
  have wide := opening.utf8Size_pos
  rw [covered, byteLength_cons]
  omega

/-- The segments of a text make up the text. -/
@[simp]
theorem sourceOf_segments (text : List Char) : sourceOf (segments text) = text := by
  induction text using segments.induct with
  | case1 => rw [segments_nil, sourceOf_nil]
  | case2 first rest segment hypothesis =>
      have leading := List.prefix_iff_eq_append.1 (source_leadingSegment_isPrefix first rest)
      rw [segments, sourceOf_cons, hypothesis]
      exact leading

/-! ## Places of segments -/

/-- Segments with the bytes that they take up from an offset on. -/
def layout : Nat → List Segment → List (Span × Segment)
  | _, [] => []
  | offset, segment :: later =>
      (⟨offset, offset + byteLength segment.source⟩, segment) ::
        layout (offset + byteLength segment.source) later

theorem layout_append (offset : Nat) (pieces later : List Segment) :
    layout offset (pieces ++ later) =
      layout offset pieces ++ layout (offset + byteLength (sourceOf pieces)) later := by
  induction pieces generalizing offset with
  | nil => rfl
  | cons segment others hypothesis =>
      simp only [List.cons_append, layout, hypothesis, sourceOf_cons, byteLength_append,
        Nat.add_assoc]

/-- A segment has its bytes after those of the segments before it. -/
theorem mem_layout_iff (offset : Nat) (pieces : List Segment) (span : Span) (segment : Segment) :
    (span, segment) ∈ layout offset pieces ↔
      ∃ passed later,
        pieces = passed ++ segment :: later ∧
          span = ⟨offset + byteLength (sourceOf passed),
            offset + byteLength (sourceOf passed) + byteLength segment.source⟩ := by
  constructor
  · intro member
    induction pieces generalizing offset with
    | nil => cases member
    | cons first others hypothesis =>
        rcases List.mem_cons.1 member with same | inOthers
        · cases same
          exact ⟨[], others, rfl, rfl⟩
        · rcases hypothesis _ inOthers with ⟨passed, later, rfl, rfl⟩
          refine ⟨first :: passed, later, rfl, ?_⟩
          rw [sourceOf_cons, byteLength_append, Nat.add_assoc offset]
  · rintro ⟨passed, later, rfl, rfl⟩
    rw [layout_append]
    exact List.mem_append_right _ List.mem_cons_self

theorem mem_of_mem_layout
    {offset : Nat} {pieces : List Segment} {span : Span} {segment : Segment}
    (member : (span, segment) ∈ layout offset pieces) :
    segment ∈ pieces := by
  rcases (mem_layout_iff _ _ _ _).1 member with ⟨passed, later, rfl, -⟩
  exact List.mem_append_right _ List.mem_cons_self

/-- Segments lie between the offset and their end. -/
theorem bounds_of_mem_layout
    {offset : Nat} {pieces : List Segment} {span : Span} {segment : Segment}
    (member : (span, segment) ∈ layout offset pieces) :
    offset ≤ span.start ∧ span.stop ≤ offset + byteLength (sourceOf pieces) := by
  rcases (mem_layout_iff _ _ _ _).1 member with ⟨passed, later, rfl, rfl⟩
  simp only [sourceOf_append, sourceOf_cons, byteLength_append]
  omega

/-- Segments leave no byte between the offset and their end to none of them. -/
theorem exists_mem_layout
    {offset place : Nat} {pieces : List Segment} (low : offset ≤ place)
    (high : place < offset + byteLength (sourceOf pieces)) :
    ∃ span segment, (span, segment) ∈ layout offset pieces ∧ span.Covers place := by
  induction pieces generalizing offset with
  | nil =>
      rw [sourceOf_nil, byteLength_nil] at high
      omega
  | cons first others hypothesis =>
      rw [sourceOf_cons, byteLength_append] at high
      by_cases here : place < offset + byteLength first.source
      · exact ⟨_, first, List.mem_cons_self, low, here⟩
      · rcases hypothesis (Nat.le_of_not_lt here) (by omega) with ⟨span, segment, member, covers⟩
        exact ⟨span, segment, List.mem_cons_of_mem _ member, covers⟩

/-- No byte belongs to two segments. -/
theorem eq_of_covers
    {offset place : Nat} {pieces : List Segment} {entry other : Span × Segment}
    (member : entry ∈ layout offset pieces) (otherMember : other ∈ layout offset pieces)
    (covers : entry.1.Covers place) (otherCovers : other.1.Covers place) :
    entry = other := by
  induction pieces generalizing offset with
  | nil => cases member
  | cons first later hypothesis =>
      -- The segments after the first one start where it ends.
      have after {placed : Span × Segment}
          (inLater : placed ∈ layout (offset + byteLength first.source) later)
          (covered : placed.1.Covers place) :
          offset + byteLength first.source ≤ place :=
        (bounds_of_mem_layout inLater).1.trans covered.1
      rcases List.mem_cons.1 member with rfl | inLater
      · rcases List.mem_cons.1 otherMember with rfl | otherInLater
        · rfl
        · exact absurd covers.2 (Nat.not_lt.2 (after otherInLater otherCovers))
      · rcases List.mem_cons.1 otherMember with rfl | otherInLater
        · exact absurd otherCovers.2 (Nat.not_lt.2 (after inLater covers))
        · exact hypothesis inLater otherInLater

/-- The bytes of the segments of a class. -/
def spansOf (class? : Segment → Bool) (placed : List (Span × Segment)) : List Span :=
  (placed.filter fun entry => class? entry.2).map Prod.fst

theorem spansOf_append (class? : Segment → Bool) (placed later : List (Span × Segment)) :
    spansOf class? (placed ++ later) = spansOf class? placed ++ spansOf class? later := by
  rw [spansOf, List.filter_append, List.map_append]
  rfl

theorem mem_spansOf_iff
    (class? : Segment → Bool) (placed : List (Span × Segment)) (span : Span) :
    span ∈ spansOf class? placed ↔
      ∃ segment, (span, segment) ∈ placed ∧ class? segment = true := by
  simp [spansOf, List.mem_map, List.mem_filter]

theorem spansOf_eq_nil
    {class? : Segment → Bool} {pieces : List Segment}
    (outside : ∀ segment ∈ pieces, class? segment = false) (offset : Nat) :
    spansOf class? (layout offset pieces) = [] := by
  rw [List.eq_nil_iff_forall_not_mem]
  intro span member
  rcases (mem_spansOf_iff _ _ _).1 member with ⟨segment, listed, inside⟩
  rw [outside segment (mem_of_mem_layout listed)] at inside
  cases inside

/-- The bytes of the comments of a query. -/
def commentSpans (text : List Char) : List Span :=
  spansOf Segment.isComment (layout 0 (segments text))

/-- The bytes of the quoted texts that the comment pass of a query protects. -/
def quotedSpans (text : List Char) : List Span :=
  spansOf Segment.isQuoted (layout 0 (segments text))

/-- A byte of a comment or of a blank character. -/
def IsSkipped (text : List Char) (place : Nat) : Prop :=
  (∃ comment ∈ commentSpans text, comment.Covers place) ∨
    ∃ before blank after,
      text = before ++ blank :: after ∧ isBlank blank = true ∧
        Span.Covers ⟨byteLength before, byteLength before + blank.utf8Size⟩ place

/-- The bytes of a segment that the lexer skips are those of a comment or of a blank. -/
theorem isSkipped_of_mem_layout
    {text : List Char} {span : Span} {segment : Segment}
    (member : (span, segment) ∈ layout 0 (segments text)) (space : segment.isSpace = true)
    {place : Nat} (covers : span.Covers place) :
    IsSkipped text place := by
  cases segment with
  | quoted characters => cases space
  | comment characters =>
      exact .inl ⟨span, (mem_spansOf_iff _ _ _).2 ⟨_, member, rfl⟩, covers⟩
  | plain blank =>
      rcases (mem_layout_iff _ _ _ _).1 member with ⟨passed, later, split, rfl⟩
      refine .inr ⟨sourceOf passed, blank, sourceOf later, ?_, space, ?_⟩
      · rw [← sourceOf_segments text, split, sourceOf_append, sourceOf_cons]
        rfl
      · simpa [Segment.source] using covers

end Lexis

end FindQuery
