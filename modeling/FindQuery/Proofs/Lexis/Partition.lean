import FindQuery.Proofs.Lexis.Cut

/-!
# Tokens partition the query

The tokens of a query, its comments and its blanks share the bytes of the query among
them: every byte belongs to one of them, and no token has bytes of a comment.  What is a
string is decided twice, by the comment pass and by the lexical rules, and both decide
the same.
-/

namespace FindQuery.Lexis

open FindQuery.Text

/-- The spans of some tokens part the bytes of a query from its comments and blanks. -/
structure IsPartition (query : String) (tokens : List Token) : Prop where
  ordered : tokens.Pairwise fun earlier later => earlier.span.stop ≤ later.span.start
  nonempty : ∀ token ∈ tokens, token.span.start < token.span.stop
  within : ∀ token ∈ tokens, token.span.stop ≤ query.utf8ByteSize
  /-- Spans start and end between characters of the query. -/
  aligned : ∀ token ∈ tokens, (token.span.slice? query.toList).isSome = true
  /-- The text of a token is what the lexer sees at its bytes, less quotes or brackets. -/
  shown : ∀ token ∈ tokens, ∃ lexeme,
    token.span.slice? (normalize query.toList) = some lexeme ∧
      Strips token.tag lexeme token.text.toList
  covered : ∀ place < query.utf8ByteSize,
    (∃ token ∈ tokens, token.span.Covers place) ∨ IsSkipped query.toList place
  clear : ∀ token ∈ tokens, ∀ comment ∈ commentSpans query.toList,
    comment.stop ≤ token.span.start ∨ token.span.stop ≤ comment.start
  strings :
    (tokens.filter fun token => token.tag = .string).map Token.span =
      quotedSpans query.toList

theorem exists_cuts_of_tokenize
    {query : String} {tokens : List Token} (tokenized : tokenize query = .ok tokens) :
    Cuts 0 (segments query.toList) tokens query.utf8ByteSize [] := by
  have run := (tokenize_eq_ok_iff query tokens).1 tokenized
  rcases exists_cuts_scan 0 query.toList with ⟨stop, unread, cuts, -, ended⟩
  rw [startOf] at run
  rw [run] at cuts ended
  rcases ended with ⟨-, rfl⟩ | ⟨cause, faulty, -⟩
  · rw [segments_nil] at cuts
    rcases cuts.exists_passed with ⟨passed, whole, rfl⟩
    rw [List.append_nil] at whole
    have size : 0 + byteLength (sourceOf passed) = query.utf8ByteSize := by
      rw [← whole, sourceOf_segments, utf8ByteSize_eq_byteLength, Nat.zero_add]
    rwa [size] at cuts
  · cases faulty

/-- A token has no bytes of a comment. -/
theorem Carries.clear
    {passed carried later : List Segment} {lexeme : List Char} {token : Token} {offset : Nat}
    (carries : Carries carried lexeme token)
    (spanned : token.span = ⟨offset + byteLength (sourceOf passed),
      offset + byteLength (sourceOf passed) + byteLength (sourceOf carried)⟩) :
    ∀ comment ∈ spansOf Segment.isComment (layout offset (passed ++ (carried ++ later))),
      comment.stop ≤ token.span.start ∨ token.span.stop ≤ comment.start := by
  intro comment member
  rcases (mem_spansOf_iff _ _ _).1 member with ⟨segment, listed, isComment⟩
  rw [layout_append, layout_append, List.mem_append, List.mem_append] at listed
  rw [spanned]
  rcases listed with inPassed | inCarried | inLater
  · exact .inl (bounds_of_mem_layout inPassed).2
  · rw [carries.isComment_eq_false segment (mem_of_mem_layout inCarried)] at isComment
    cases isComment
  · exact .inr (bounds_of_mem_layout inLater).1

/-- A token stands at the bytes of a part of the query. -/
theorem exists_slice_of_tokenize
    {query : String} {tokens : List Token} (tokenized : tokenize query = .ok tokens) :
    ∀ token ∈ tokens, ∃ before part after,
      query.toList = before ++ (part ++ after) ∧
        token.span = ⟨byteLength before, byteLength before + byteLength part⟩ := by
  intro token member
  rcases (exists_cuts_of_tokenize tokenized).exists_pieces token member with
    ⟨passed, carried, later, lexeme, split, -, spanned⟩
  refine ⟨sourceOf passed, sourceOf carried, sourceOf later, ?_, ?_⟩
  · rw [← sourceOf_segments query.toList, split, sourceOf_append, sourceOf_append]
  · rw [spanned, Nat.zero_add]

/-- The tokens of a query part its bytes from its comments and blanks. -/
theorem isPartition_of_tokenize
    {query : String} {tokens : List Token} (tokenized : tokenize query = .ok tokens) :
    IsPartition query tokens := by
  have cuts := exists_cuts_of_tokenize tokenized
  constructor
  case ordered => exact cuts.pairwise
  case nonempty =>
    intro token member
    rcases cuts.exists_pieces token member with
      ⟨passed, carried, later, lexeme, -, carries, spanned⟩
    have positive := carries.byteLength_pos
    rw [spanned]
    exact Nat.lt_add_of_pos_right positive
  case within =>
    intro token member
    rcases exists_slice_of_tokenize tokenized token member with
      ⟨before, part, after, whole, spanned⟩
    rw [spanned, utf8ByteSize_eq_byteLength, whole, byteLength_append, byteLength_append,
      ← Nat.add_assoc]
    exact Nat.le_add_right _ _
  case aligned =>
    intro token member
    rcases exists_slice_of_tokenize tokenized token member with
      ⟨before, part, after, whole, spanned⟩
    rw [spanned, whole, Span.slice?_append]
    rfl
  case shown =>
    intro token member
    rcases cuts.exists_pieces token member with
      ⟨passed, carried, later, lexeme, split, carries, spanned⟩
    refine ⟨lexeme, ?_, carries.isLexeme.strips carries.meaning⟩
    rw [spanned, ← visibleOf_segments, split, visibleOf_append, visibleOf_append, Nat.zero_add,
      ← byteLength_visibleOf, ← byteLength_visibleOf, Span.slice?_append, carries.shown]
  case covered =>
    intro place inside
    rcases cuts.covered (Nat.zero_le place) inside with
      inToken | ⟨span, segment, member, space, covers⟩
    · exact .inl inToken
    · exact .inr (isSkipped_of_mem_layout member space covers)
  case clear =>
    intro token member comment isComment
    rcases cuts.exists_pieces token member with
      ⟨passed, carried, later, lexeme, split, carries, spanned⟩
    rw [commentSpans, split] at isComment
    exact carries.clear spanned comment isComment
  case strings =>
    have strings := cuts.spans_quoted
    have nothing : spansOf Segment.isQuoted (layout query.utf8ByteSize []) = [] := rfl
    rw [nothing, List.append_nil] at strings
    exact strings.symm

/-- A query with a comment in a string, a quote in a comment and a comment never closed. -/
def hiddenMarksTokens : List Token :=
  [⟨.find, .command, "find", ⟨0, 4⟩⟩, ⟨.literal, .string, "é // π", ⟨18, 28⟩⟩,
    ⟨.divide, .divide, "/", ⟨29, 30⟩⟩, ⟨.times, .times, "*", ⟨30, 31⟩⟩,
    ⟨.literal, .ident, "day", ⟨32, 37⟩⟩]

theorem hiddenMarksTokens_isPartition :
    tokenize "find /* ‘' \" */ 'é // π' /* [day] // '" = .ok hiddenMarksTokens ∧
      IsPartition "find /* ‘' \" */ 'é // π' /* [day] // '" hiddenMarksTokens := by
  have tokenized : tokenize "find /* ‘' \" */ 'é // π' /* [day] // '" =
      .ok hiddenMarksTokens := by
    decide +kernel
  exact ⟨tokenized, isPartition_of_tokenize tokenized⟩

end FindQuery.Lexis
