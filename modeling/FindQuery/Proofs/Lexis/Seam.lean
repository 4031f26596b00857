import FindQuery.Proofs.Lexis.Gap
import FindQuery.Proofs.Lexis.Partition

/-!
# Queries joined at a line break

A line break ends a line comment and is shown as a space, so a query before a line break
is read as it is read alone, provided that nothing in it can reach over the break.  What
could is an opening quote or `/*` that is never closed.  The quote would be refused where
it stands, and the slash is read as a sign of its own.
-/

namespace FindQuery

/-- A token a number of bytes later in a query. -/
def Token.shift (amount : Nat) (token : Token) : Token :=
  { token with span := ⟨token.span.start + amount, token.span.stop + amount⟩ }

namespace Lexis

open FindQuery.Text

/-! ## Comments before a line break -/

/-- The nearest end of a comment stays the nearest when the text goes on. -/
theorem blockEnd?_append
    {text : List Char} {length : Nat} (found : blockEnd? text = some length)
    (later : List Char) :
    blockEnd? (text ++ later) = some length := by
  induction text using blockEnd?.induct generalizing length with
  | case1 rest => exact found
  | case2 first rest noEnd hypothesis =>
      rw [blockEnd?] at found
      · rcases Option.map_eq_some_iff.1 found with ⟨inner, inside, rfl⟩
        rw [List.cons_append, blockEnd?, hypothesis inside, Option.map_some]
        intro following star same
        cases rest with
        | nil => cases inside
        | cons next others =>
            cases same
            exact noEnd others star rfl
      · exact noEnd
  | case3 => cases found

theorem blockEnd?_le
    {text : List Char} {length : Nat} (found : blockEnd? text = some length) :
    length ≤ text.length := by
  induction text using blockEnd?.induct generalizing length with
  | case1 rest =>
      cases found
      simp
  | case2 first rest noEnd hypothesis =>
      rw [blockEnd?] at found
      · rcases Option.map_eq_some_iff.1 found with ⟨inner, inside, rfl⟩
        exact Nat.succ_le_succ (hypothesis inside)
      · exact noEnd
  | case3 => cases found

/-- A comment before a line break is the comment that it is alone. -/
theorem commentLength?_append_break
    {text : List Char} {length : Nat} (commented : commentLength? text = some length)
    (later : List Char) :
    commentLength? (text ++ '\n' :: later) = some length ∧ length ≤ text.length ∧
      text.head? = some '/' := by
  unfold commentLength? at commented
  split at commented
  · rename_i rest
    cases commented
    have line : (rest ++ '\n' :: later).takeWhile (· != '\n') = rest.takeWhile (· != '\n') :=
      takeWhile_append_eq_of_head? (by simp) rest
    have short := (List.takeWhile_prefix (l := rest) (· != '\n')).length_le
    refine ⟨?_, Nat.add_le_add_right short 2, rfl⟩
    rw [List.cons_append, List.cons_append, commentLength?, line]
  · rename_i rest
    rcases Option.map_eq_some_iff.1 commented with ⟨inner, ended, rfl⟩
    refine ⟨?_, Nat.add_le_add_right (blockEnd?_le ended) 2, rfl⟩
    rw [List.cons_append, List.cons_append, commentLength?, blockEnd?_append ended,
      Option.map_some]
  · cases commented

/-! ## Segments before a line break -/

/-- A text in which no character opens a quoted text or a comment without one being there. -/
def IsSettled (text : List Char) : Prop :=
  ∀ character, .plain character ∈ segments text → opensSegment character = false

theorem leadingSegment_append_break
    {first : Char} {rest : List Char}
    (settled : leadingSegment first rest = .plain first → opensSegment first = false)
    (later : List Char) :
    leadingSegment first (rest ++ '\n' :: later) = leadingSegment first rest := by
  cases quoted : quotedLength? (first :: rest) with
  | some length =>
      rcases (quotedLength?_eq_some_iff _ _).1 quoted with
        ⟨quote, body, others, isOne, fresh, same, -⟩
      cases same
      rw [List.append_assoc, List.cons_append, leadingSegment_of_quoted isOne fresh,
        leadingSegment_of_quoted isOne fresh]
  | none =>
      cases commented : commentLength? (first :: rest) with
      | some length =>
          rcases commentLength?_append_break commented later with ⟨longer, fits, slash⟩
          obtain rfl : first = '/' := Option.some.inj slash
          rw [List.cons_append] at longer
          rw [leadingSegment, leadingSegment, quoted, commented, longer,
            quotedLength?_eq_none_of_head rfl]
          simp only
          rw [← List.cons_append, List.take_append_of_le_length fits]
      | none =>
          have plain : leadingSegment first rest = .plain first := by
            rw [leadingSegment, quoted, commented]
          rw [leadingSegment_of_opensSegment (settled plain), plain]

/-- A settled text before a line break is cut into the segments that it has alone. -/
theorem segments_append_break
    {text : List Char} (settled : IsSettled text) (later : List Char) :
    segments (text ++ '\n' :: later) = segments text ++ segments ('\n' :: later) := by
  induction text using segments.induct with
  | case1 => rw [segments_nil, List.nil_append, List.nil_append]
  | case2 first rest segment hypothesis =>
      have whole : segments (first :: rest) = segment :: segments
          ((first :: rest).drop segment.source.length) := by
        rw [segments]
      rw [IsSettled, whole] at settled
      have leading := leadingSegment_append_break
        (fun plain => settled first (List.mem_cons.2 (.inl plain.symm))) later
      have others := hypothesis fun character member =>
        settled character (List.mem_cons_of_mem _ member)
      have fits := (source_leadingSegment_isPrefix first rest).length_le
      rw [whole, List.cons_append, segments, leading, ← List.cons_append,
        List.drop_append_of_le_length fits, others, List.cons_append]

/-- A settled text before a line break is shown as it is alone, and the break as a space. -/
theorem normalize_append_break
    {text : List Char} (settled : IsSettled text) (later : List Char) :
    normalize (text ++ '\n' :: later) = normalize text ++ ' ' :: normalize later := by
  have space : normalize ('\n' :: later) = ' ' :: normalize later := by
    rw [normalize_cons, leadingSegment_of_opensSegment (by decide)]
    rfl
  rw [← space, ← visibleOf_segments, segments_append_break settled, visibleOf_append]
  rfl

/-! ## Tokens without division -/

/-- A sign or a word of division. -/
def IsDivision (token : Token) : Prop :=
  token.kind = .divide ∧ token.tag = .divide

theorem kind_of_slash
    {kind : Kind} {text : List Char} (meaning : interpret? .divide ['/'] = some (kind, text)) :
    kind = .divide := by
  have known : interpret? .divide ['/'] = some (.divide, ['/']) := by decide
  rw [known] at meaning
  cases meaning
  rfl

/-- A query with tokens none of which divides is settled. -/
theorem isSettled_of_tokenize
    {query : String} {tokens : List Token} (tokenized : tokenize query = .ok tokens)
    (whole : ∀ token ∈ tokens, ¬ IsDivision token) :
    IsSettled query.toList := by
  intro character member
  rcases (exists_cuts_of_tokenize tokenized).mem_pieces _ member with
    space | nowhere | ⟨token, listed, carried, lexeme, carries, inside⟩
  · exact opensSegment_eq_false (p := isBlank) (by decide) space
  · cases nowhere
  · have noString : token.tag ≠ .string := by
      intro string
      rcases carries.quoted string with ⟨characters, rfl⟩
      cases List.mem_singleton.1 inside
    rw [carries.plain noString] at inside
    rcases List.mem_map.1 inside with ⟨part, inLexeme, same⟩
    cases same
    rcases (carries.isLexeme.isSolid noString).2 with ⟨divides, slash⟩ | plain
    · have meaning := carries.meaning
      rw [divides, slash] at meaning
      exact absurd ⟨kind_of_slash meaning, divides⟩ (whole token listed)
    · exact plain character inLexeme

/-! ## Tokens further on -/

/-- A position a number of bytes later in a query. -/
def Position.shift (amount : Nat) (position : Position) : Position :=
  ⟨position.offset + amount, position.rest⟩

/-- What a step comes to a number of bytes later in a query. -/
def Step.shift (amount : Nat) : Step → Step
  | .finished => .finished
  | .token read after => .token (read.shift amount) (after.shift amount)
  | .fault cause offset => .fault cause (offset + amount)

theorem advance_shift (amount : Nat) (position : Position) (count : Nat) :
    (position.shift amount).advance count = (position.advance count).shift amount := by
  simp only [Position.shift, Position.advance, Nat.add_right_comm]

theorem readToken_shift (amount : Nat) (position : Position) :
    readToken (position.shift amount) = (readToken position).shift amount := by
  have same : (position.shift amount).rest = position.rest := rfl
  rw [readToken, readToken, same]
  split
  · rfl
  · simp only
    split
    · rfl
    · rw [advance_shift]
      rfl

/-- A step does the same at every offset. -/
theorem step_shift (amount : Nat) (position : Position) :
    step (position.shift amount) = (step position).shift amount := by
  have skipped : (position.shift amount).skipBlanks = position.skipBlanks.shift amount :=
    advance_shift amount position _
  have same : (position.skipBlanks.shift amount).rest = position.skipBlanks.rest := rfl
  simp only [step, skipped, same]
  split
  · rfl
  · exact readToken_shift amount _

/-- A scan reads the same tokens at every offset. -/
theorem scan_shift (amount : Nat) (position : Position) :
    scan (position.shift amount) =
      ⟨(scan position).tokens.map (Token.shift amount),
        (scan position).fault?.map fun fault => (fault.1, fault.2 + amount)⟩ := by
  apply scan_of_step_map
  intro position
  rw [step_shift]
  cases step position <;> rfl

/-! ## The pipe -/

theorem firstMatch?_pipe (rest : List Char) :
    firstMatch? ('|' :: rest) = some (.pipe, 1) := by
  have first : signs = (.pipe, "|") :: signs.tail := by decide
  have noRun : letterRun ('|' :: rest) = [] := by
    simp [letterRun, show isLetterForm '|' = false by decide]
  have sign : signMatch? ('|' :: rest) = some (.pipe, 1) := by
    rw [signMatch?, first, List.find?_cons_of_pos]
    · rfl
    · rfl
  rw [firstMatch?_eq_or, wordMatch?_eq_none_of_letterRun noRun, sign]
  rfl

/-- The token of a pipe at an offset. -/
def pipeAt (offset : Nat) : Token :=
  ⟨.pipe, .pipe, "|", ⟨offset, offset + 1⟩⟩

/-- A space and a pipe are read as the pipe. -/
theorem scan_pipe (position : Position) :
    scan ⟨position.offset, ' ' :: '|' :: position.rest⟩ =
      ⟨pipeAt (position.offset + 1) :: (scan (position.shift 2)).tokens,
        (scan (position.shift 2)).fault?⟩ := by
  have meaning : interpret? .pipe ['|'] = some (.pipe, ['|']) := by decide
  have found : firstMatch? (['|'] ++ position.rest) = some (.pipe, ['|'].length) :=
    firstMatch?_pipe position.rest
  have visible : ∃ first later, ['|'] = first :: later ∧ isBlank first = false :=
    ⟨'|', [], rfl, by decide⟩
  have read := step_append found meaning visible (position.offset + 1)
  have space : step ⟨position.offset, [' '] ++ '|' :: position.rest⟩ =
      step ⟨position.offset + 1, '|' :: position.rest⟩ :=
    step_append_of_blank (List.forall_mem_singleton.2 rfl) position.offset _
  exact (scan_congr space).trans (scan_of_token read)

/--
A query without division, a line break, a pipe and another query are read as the tokens
of the one, the pipe, and the tokens of the other.
-/
theorem tokenize_pipe
    {query later : String} {tokens laterTokens : List Token}
    (tokenized : tokenize query = .ok tokens) (whole : ∀ token ∈ tokens, ¬ IsDivision token)
    (tokenizedLater : tokenize later = .ok laterTokens) :
    tokenize (query ++ "\n|" ++ later) =
      .ok (tokens ++ pipeAt (query.utf8ByteSize + 1) ::
        laterTokens.map (Token.shift (query.utf8ByteSize + 2))) := by
  have run := (tokenize_eq_ok_iff query tokens).1 tokenized
  have runLater := (tokenize_eq_ok_iff later laterTokens).1 tokenizedLater
  have text : (query ++ "\n|" ++ later).toList =
      query.toList ++ '\n' :: '|' :: later.toList := by
    simp
  have shown : normalize (query ++ "\n|" ++ later).toList =
      normalize query.toList ++ ' ' :: '|' :: normalize later.toList := by
    rw [text, normalize_append_break (isSettled_of_tokenize tokenized whole),
      normalize_cons_of_opensSegment (by decide) (isStraight_iff _ |>.2 (by decide))]
  have size : byteLength (normalize query.toList) = query.utf8ByteSize := by
    rw [← visibleOf_segments, byteLength_visibleOf, sourceOf_segments, utf8ByteSize_eq_byteLength]
  have onward : scan (Position.shift 2 ⟨query.utf8ByteSize, normalize later.toList⟩) =
      ⟨laterTokens.map (Token.shift (query.utf8ByteSize + 2)), none⟩ := by
    have same : Position.shift 2 ⟨query.utf8ByteSize, normalize later.toList⟩ =
        (startOf later).shift (query.utf8ByteSize + 2) := by
      simp [Position.shift, startOf]
    rw [same, scan_shift, runLater, Option.map_none]
  have joined := scan_append_gap (isGap_cons ('|' :: normalize later.toList)) (startOf query)
    (congrArg Scan.fault? run)
  have piped := scan_pipe ⟨query.utf8ByteSize, normalize later.toList⟩
  rw [onward] at piped
  rw [run] at joined
  simp only [startOf, Nat.zero_add, size] at joined
  rw [tokenize_eq_ok_iff, startOf, shown, joined, piped]

end Lexis

end FindQuery
