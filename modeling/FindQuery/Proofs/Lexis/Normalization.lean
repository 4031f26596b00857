import FindQuery.Proofs.Lexis.Alignment
import FindQuery.Proofs.Lexis.Scan
import FindQuery.Proofs.Text.Utf8
import Mathlib.Data.List.Chain

/-!
# What the comment pass leaves

The pass shows a query byte for byte: bytes of comments, tabs and line breaks as spaces and
every other byte as it is.  What it shows holds no comment any more.  A comment would need its
marks side by side, and the pass never brings two characters together: whatever it takes away
leaves spaces.  So a second pass changes nothing, and the lexer finds the same tokens in a
query and in what the pass shows of it.
-/

namespace FindQuery.Lexis

open FindQuery.Text

/-! ## Byte by byte -/

/-- What the pass shows of a byte outside comments. -/
def straightenByte (byte : UInt8) : UInt8 :=
  if byte = 9 ∨ byte = 10 ∨ byte = 13 then 32 else byte

theorem straightenByte_of_le {byte : UInt8} (beyond : 128 ≤ byte.toNat) :
    straightenByte byte = byte := by
  rw [straightenByte, if_neg]
  rintro (rfl | rfl | rfl) <;> revert beyond <;> decide

/-- To straighten a character is to straighten its bytes. -/
theorem utf8EncodeChar_straighten (character : Char) :
    String.utf8EncodeChar (Segment.straighten character) =
      (String.utf8EncodeChar character).map straightenByte := by
  by_cases straight : IsStraight character
  · have others := (isStraight_iff character).1 straight
    rw [straight]
    rcases utf8EncodeChar_cases character with ⟨ascii, single⟩ | ⟨-, beyond⟩
    · have noBlank : ∀ code < 128, code ≠ 9 → code ≠ 13 → code ≠ 10 →
          straightenByte (UInt8.ofNat code) = UInt8.ofNat code := by
        decide
      have different {other : Char} (distinct : character ≠ other) :
          character.toNat ≠ other.toNat :=
        mt Char.toNat_inj.1 distinct
      rw [single, List.map_singleton, noBlank character.toNat ascii (different others.1)
        (different others.2.1) (different others.2.2)]
    · symm
      rw [List.map_congr_left fun byte member => straightenByte_of_le (beyond byte member)]
      exact List.map_id _
  · have blank : character = '\t' ∨ character = '\r' ∨ character = '\n' := by
      by_contra others
      rw [not_or, not_or] at others
      exact straight ((isStraight_iff character).2 others)
    rcases blank with rfl | rfl | rfl <;> decide

theorem bytes_map_straighten (text : List Char) :
    bytes (text.map Segment.straighten) = (bytes text).map straightenByte := by
  induction text with
  | nil => rfl
  | cons first rest hypothesis =>
      rw [List.map_cons, bytes_cons, bytes_cons, List.map_append, hypothesis,
        utf8EncodeChar_straighten]

theorem bytes_replicate_space (count : Nat) :
    bytes (List.replicate count ' ') = List.replicate count 32 := by
  induction count with
  | zero => rfl
  | succ count hypothesis =>
      rw [List.replicate_succ, bytes_cons, hypothesis, List.replicate_succ]
      rfl

/-- What the pass shows of a byte of a segment. -/
def Segment.showByte : Segment → UInt8 → UInt8
  | comment _, _ => 32
  | _, byte => straightenByte byte

theorem Segment.bytes_visible (segment : Segment) :
    bytes segment.visible = (bytes segment.source).map segment.showByte := by
  cases segment with
  | plain character => exact bytes_map_straighten [character]
  | quoted characters => exact bytes_map_straighten characters
  | comment characters =>
      have const : (comment characters).showByte = fun _ => 32 := rfl
      rw [visible, source, bytes_replicate_space, const, List.map_const', length_bytes]

/-- A byte is shown as the segment that it belongs to shows it. -/
theorem getElem?_bytes_visibleOf
    {pieces : List Segment} {span : Span} {segment : Segment} {place : Nat}
    (member : (span, segment) ∈ layout 0 pieces) (covers : span.Covers place) :
    (bytes (visibleOf pieces))[place]? =
      (bytes (sourceOf pieces))[place]?.map segment.showByte := by
  rcases (mem_layout_iff _ _ _ _).1 member with ⟨passed, later, rfl, rfl⟩
  rcases covers with ⟨low, high⟩
  simp only [Nat.zero_add] at low high
  rw [visibleOf_append, visibleOf_cons, getElem?_bytes_append, segment.bytes_visible,
    byteLength_visibleOf, List.getElem?_map, sourceOf_append, sourceOf_cons,
    getElem?_bytes_append low high]
  · rwa [byteLength_visibleOf]
  · rwa [byteLength_visibleOf, segment.byteLength_visible]

/-- A byte of a comment, a tab or a line break. -/
def IsBlanked (text : List Char) (place : Nat) : Prop :=
  (∃ comment ∈ commentSpans text, comment.Covers place) ∨
    ∃ byte, (bytes text)[place]? = some byte ∧ (byte = 9 ∨ byte = 10 ∨ byte = 13)

/-- The bytes of comments, tabs and line breaks are shown as spaces, all others as they are. -/
theorem getElem?_bytes_normalize
    {text : List Char} {place : Nat} (inside : place < byteLength text) :
    (IsBlanked text place → (bytes (normalize text))[place]? = some 32) ∧
      (¬ IsBlanked text place → (bytes (normalize text))[place]? = (bytes text)[place]?) := by
  have within : place < 0 + byteLength (sourceOf (segments text)) := by
    rwa [Nat.zero_add, sourceOf_segments]
  rcases exists_mem_layout (Nat.zero_le place) within with ⟨span, segment, member, covers⟩
  have shown := getElem?_bytes_visibleOf member covers
  have present : place < (bytes text).length := by
    rwa [length_bytes]
  rw [visibleOf_segments, sourceOf_segments, List.getElem?_eq_getElem present,
    Option.map_some] at shown
  rw [shown, List.getElem?_eq_getElem present]
  have inComment : (∃ comment ∈ commentSpans text, comment.Covers place) ↔
      segment.isComment = true := by
    constructor
    · rintro ⟨comment, listed, commentCovers⟩
      rcases (mem_spansOf_iff _ _ _).1 listed with ⟨other, otherMember, isComment⟩
      cases eq_of_covers member otherMember covers commentCovers
      exact isComment
    · intro isComment
      exact ⟨span, (mem_spansOf_iff _ _ _).2 ⟨segment, member, isComment⟩, covers⟩
  rw [IsBlanked, inComment, List.getElem?_eq_getElem present]
  cases segment with
  | comment characters => simp [Segment.isComment, Segment.showByte]
  | plain character =>
      simp +contextual [Segment.isComment, Segment.showByte, straightenByte]
  | quoted characters =>
      simp +contextual [Segment.isComment, Segment.showByte, straightenByte]

/-! ## A second pass -/

/-- The first character that is shown, unless it is a blank, is the first of the text. -/
theorem head?_of_head?_normalize
    {text : List Char} {first : Char} (shown : (normalize text).head? = some first)
    (visible : isBlank first = false) :
    text.head? = some first := by
  rcases List.head?_eq_some_iff.1 shown with ⟨rest, same⟩
  rcases exists_source_of_visible same visible with ⟨others, rfl, -⟩
  rfl

/-- The last character that is shown of a segment, unless it is a blank, is its last. -/
theorem Segment.getLast?_of_getLast?_visible
    {segment : Segment} {last : Char} (shown : segment.visible.getLast? = some last)
    (visible : isBlank last = false) :
    segment.source.getLast? = some last := by
  have kept (characters : List Char)
      (straightened : (characters.map straighten).getLast? = some last) :
      characters.getLast? = some last := by
    rw [List.getLast?_map, Option.map_eq_some_iff] at straightened
    rcases straightened with ⟨original, isLast, same⟩
    rw [isLast, eq_of_straighten_eq same visible]
  cases segment with
  | plain character => exact kept [character] shown
  | quoted characters => exact kept characters shown
  | comment characters =>
      have member := List.mem_of_getLast? shown
      rw [(List.mem_replicate.1 member).2] at visible
      cases visible

/-- Two characters that do not close a block comment together. -/
def NoBlockEnd (first second : Char) : Prop :=
  ¬ (first = '*' ∧ second = '/')

theorem blockEnd?_eq_none_iff (text : List Char) :
    blockEnd? text = none ↔ List.IsChain NoBlockEnd text := by
  induction text using blockEnd?.induct with
  | case1 rest => simp [blockEnd?, NoBlockEnd]
  | case2 first rest noEnd hypothesis =>
      rw [blockEnd?.eq_2 _ _ noEnd, Option.map_eq_none_iff, hypothesis, List.isChain_cons]
      constructor
      · intro chain
        refine ⟨?_, chain⟩
        rintro second atHead ⟨star, rfl⟩
        rcases List.head?_eq_some_iff.1 atHead with ⟨later, same⟩
        exact noEnd later star same
      · exact And.right
  | case3 => simp [blockEnd?]

theorem NoBlockEnd.straighten
    {first second : Char} (apart : NoBlockEnd first second) :
    NoBlockEnd (Segment.straighten first) (Segment.straighten second) := by
  rintro ⟨star, slash⟩
  exact apart ⟨eq_of_straighten_eq star (by decide), eq_of_straighten_eq slash (by decide)⟩

/-- A segment is shown without a star and a slash side by side where it has none. -/
theorem Segment.isChain_visible
    {segment : Segment} (apart : List.IsChain NoBlockEnd segment.source) :
    List.IsChain NoBlockEnd segment.visible := by
  have kept {characters : List Char} (chain : List.IsChain NoBlockEnd characters) :
      List.IsChain NoBlockEnd (characters.map straighten) :=
    (List.isChain_map _).2 (chain.imp fun _ _ => NoBlockEnd.straighten)
  cases segment with
  | plain character => exact kept apart
  | quoted characters => exact kept apart
  | comment characters => exact List.isChain_replicate_of_rel _ (by simp [NoBlockEnd])

/-- The pass brings no star and slash together. -/
theorem isChain_normalize
    {text : List Char} (apart : List.IsChain NoBlockEnd text) :
    List.IsChain NoBlockEnd (normalize text) := by
  induction text using segments.induct with
  | case1 => rwa [normalize_nil]
  | case2 first rest segment hypothesis =>
      have whole := List.prefix_iff_eq_append.1 (source_leadingSegment_isPrefix first rest)
      rw [← whole, List.isChain_append] at apart
      rcases apart with ⟨here, later, junction⟩
      rw [normalize_cons]
      apply (Segment.isChain_visible here).append (hypothesis later)
      rintro last isLast next isNext ⟨rfl, rfl⟩
      have lastWritten := Segment.getLast?_of_getLast?_visible isLast (by decide)
      have nextWritten := head?_of_head?_normalize isNext (by decide)
      exact junction _ lastWritten _ nextWritten ⟨rfl, rfl⟩

theorem blockEnd?_normalize {text : List Char} (unclosed : blockEnd? text = none) :
    blockEnd? (normalize text) = none := by
  rw [blockEnd?_eq_none_iff] at *
  exact isChain_normalize unclosed

/-- A slash that starts no comment starts none before what the pass shows of the rest. -/
theorem commentLength?_normalize
    {rest : List Char} (noComment : commentLength? ('/' :: rest) = none) :
    commentLength? ('/' :: normalize rest) = none := by
  cases shown : normalize rest with
  | nil => rfl
  | cons second later =>
      rw [commentLength?_cons_cons]
      have notLine : second ≠ '/' := by
        rintro rfl
        rcases exists_source_of_visible shown (by decide) with ⟨others, rfl, -⟩
        rw [commentLength?_cons_cons, if_pos ⟨rfl, rfl⟩] at noComment
        cases noComment
      rw [if_neg fun line => notLine line.2]
      split
      · rename_i block
        rcases block with ⟨-, rfl⟩
        rcases exists_source_of_visible shown (by decide) with ⟨others, rfl, -⟩
        have starPlain : opensSegment '*' = false := by decide
        rw [normalize_cons_of_opensSegment starPlain rfl] at shown
        have unclosed : blockEnd? others = none := by
          simpa [commentLength?_cons_cons] using noComment
        rw [← (List.cons.inj shown).2, blockEnd?_normalize unclosed]
        rfl
      · rfl

theorem opensSegment_straighten {character : Char} (plain : opensSegment character = false) :
    opensSegment (Segment.straighten character) = false := by
  rw [Segment.straighten]
  split
  · decide
  · exact plain

theorem lengths?_of_plain
    {first : Char} {rest : List Char} (plain : leadingSegment first rest = .plain first) :
    quotedLength? (first :: rest) = none ∧ commentLength? (first :: rest) = none := by
  rw [leadingSegment] at plain
  cases quoted : quotedLength? (first :: rest) with
  | some length =>
      rw [quoted] at plain
      cases plain
  | none =>
      cases commented : commentLength? (first :: rest) with
      | some length =>
          rw [quoted, commented] at plain
          cases plain
      | none => exact ⟨rfl, rfl⟩

/-- A character that is plain in a text is plain before what the pass shows of the rest. -/
theorem normalize_plain
    {first : Char} {rest : List Char} (plain : leadingSegment first rest = .plain first) :
    normalize (Segment.straighten first :: normalize rest) =
      Segment.straighten first :: normalize (normalize rest) := by
  cases opens : opensSegment first with
  | false =>
      exact normalize_cons_of_opensSegment (opensSegment_straighten opens)
        (isStraight_straighten first) (normalize rest)
  | true =>
      have straight : IsStraight first := by
        rw [isStraight_iff]
        refine ⟨?_, ?_, ?_⟩ <;> rintro rfl <;> cases opens
      rcases lengths?_of_plain plain with ⟨unclosed, noStart⟩
      have noQuote : quotedLength? (first :: normalize rest) = none := by
        have fresh (isOne : isQuote first = true) : first ∉ normalize rest := by
          intro shown
          have closing := mem_of_mem_normalize shown (isBlank_eq_false_of_isQuote isOne)
          rw [quotedLength?, if_pos ⟨isOne, closing⟩] at unclosed
          cases unclosed
        rw [quotedLength?, if_neg fun quoted => fresh quoted.1 quoted.2]
      have noComment : commentLength? (first :: normalize rest) = none := by
        by_cases slash : first = '/'
        · rw [slash] at noStart ⊢
          exact commentLength?_normalize noStart
        · exact commentLength?_eq_none_of_head slash (normalize rest)
      rw [straight]
      exact normalize_cons_of_plain noQuote noComment straight

/-- What the pass shows is left alone by a second pass. -/
theorem normalize_normalize (text : List Char) : normalize (normalize text) = normalize text := by
  induction text using segments.induct with
  | case1 => rw [normalize_nil, normalize_nil]
  | case2 first rest segment hypothesis =>
      rcases leadingSegment_cases first rest with
        ⟨body, later, isOne, fresh, rfl, leading⟩ | ⟨-, ⟨characters, -, leading⟩ | leading⟩
      · have again : normalize (normalize later) = normalize later := by
          have dropped := hypothesis
          rwa [show segment = _ from leading, Segment.source,
            ← enclosed_append first first body later, List.drop_left] at dropped
        have straightBody : (body.map Segment.straighten).map Segment.straighten =
            body.map Segment.straighten := by
          rw [List.map_map]
          exact List.map_congr_left fun character _ => isStraight_straighten character
        rw [normalize_cons_of_quoted isOne fresh,
          normalize_cons_of_quoted isOne (not_mem_map_straighten isOne fresh), straightBody, again]
      · have blank : ∀ character ∈ segment.visible, character = ' ' := by
          intro character member
          rw [show segment = _ from leading] at member
          exact (List.mem_replicate.1 member).2
        rw [normalize_cons, normalize_append_of_plain, hypothesis]
        · intro character member
          rw [blank character member]
          decide
        · intro character member
          rw [blank character member]
          rfl
      · have again : normalize (normalize rest) = normalize rest := by
          have dropped := hypothesis
          rwa [show segment = _ from leading] at dropped
        have whole : normalize (first :: rest) = Segment.straighten first :: normalize rest := by
          rw [normalize_cons, leading]
          rfl
        rw [whole, normalize_plain leading, again]

/-! ## Queries -/

/-- A query as the lexer sees it. -/
def normalizedQuery (query : String) : String :=
  String.ofList (normalize query.toList)

theorem toList_normalizedQuery (query : String) :
    (normalizedQuery query).toList = normalize query.toList :=
  String.toList_ofList

theorem startOf_normalizedQuery (query : String) :
    startOf (normalizedQuery query) = startOf query := by
  rw [startOf, toList_normalizedQuery, normalize_normalize, startOf]

theorem byteLength_normalize (text : List Char) :
    byteLength (normalize text) = byteLength text := by
  rw [← visibleOf_segments, byteLength_visibleOf, sourceOf_segments]

/-- Where a query fails and why tell its error. -/
theorem tokenize_eq_errorOf_iff (query : String) (cause : LexicalCause) (offset : Nat) :
    tokenize query = .error (errorOf query cause offset) ↔
      (scan (startOf query)).fault? = some (cause, offset) := by
  rw [tokenize_eq_error_iff]
  constructor
  · rintro ⟨otherCause, otherOffset, fault, same⟩
    injection same with sameCause sameLocation
    injection sameCause with sameCause
    have sameOffset : offset = otherOffset := congrArg Location.offset sameLocation
    rw [fault, sameCause, sameOffset]
  · intro fault
    exact ⟨cause, offset, fault, rfl⟩

/--
The comment pass keeps every byte in its place: those of comments, tabs and line breaks become
spaces and the others stay as they are.  A second pass changes nothing, and the lexer makes the
same tokens of what the pass shows as of the query, or fails at the same place for the same
reason.
-/
theorem normalizedQuery_transparent (query : String) :
    (normalizedQuery query).utf8ByteSize = query.utf8ByteSize ∧
      (∀ place < query.utf8ByteSize,
        (IsBlanked query.toList place →
          (bytes (normalizedQuery query).toList)[place]? = some 32) ∧
        (¬ IsBlanked query.toList place →
          (bytes (normalizedQuery query).toList)[place]? = (bytes query.toList)[place]?)) ∧
        normalizedQuery (normalizedQuery query) = normalizedQuery query ∧
          (∀ tokens, tokenize (normalizedQuery query) = .ok tokens ↔ tokenize query = .ok tokens) ∧
            ∀ cause offset,
              tokenize (normalizedQuery query) =
                  .error (errorOf (normalizedQuery query) cause offset) ↔
                tokenize query = .error (errorOf query cause offset) := by
  refine ⟨?_, ?_, ?_, ?_, ?_⟩
  · rw [normalizedQuery, utf8ByteSize_ofList, byteLength_normalize, utf8ByteSize_eq_byteLength]
  · intro place inside
    rw [utf8ByteSize_eq_byteLength] at inside
    rw [toList_normalizedQuery]
    exact getElem?_bytes_normalize inside
  · rw [normalizedQuery, toList_normalizedQuery, normalize_normalize, normalizedQuery]
  · intro tokens
    rw [tokenize_eq_ok_iff, tokenize_eq_ok_iff, startOf_normalizedQuery]
  · intro cause offset
    rw [tokenize_eq_errorOf_iff, tokenize_eq_errorOf_iff, startOf_normalizedQuery]

end FindQuery.Lexis
