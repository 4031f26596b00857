import FindQuery.Lexis.Comment
import FindQuery.Proofs.Lexis.Character
import FindQuery.Proofs.Lexis.Literal

/-!
# The comment pass

Normalising works segment by segment, so what it makes of a text follows from its
first segment and the text after that.  It leaves no tab and no line break, and it
leaves alone what holds none of these and starts neither a quoted text nor a
comment.
-/

namespace FindQuery.Lexis

open FindQuery.Text

/-- Whether the comment pass shows a character as it is. -/
def IsStraight (character : Char) : Prop :=
  Segment.straighten character = character

theorem isStraight_iff (character : Char) :
    IsStraight character ↔ character ≠ '\t' ∧ character ≠ '\r' ∧ character ≠ '\n' := by
  rw [IsStraight, Segment.straighten]
  constructor
  · intro same
    refine ⟨?_, ?_, ?_⟩ <;> rintro rfl <;> revert same <;> decide
  · rintro ⟨noTab, noReturn, noBreak⟩
    simp [noTab, noReturn, noBreak]

/-- A class that leaves out tabs and line breaks has characters that are shown as they are. -/
theorem isStraight_of_class
    {p : Char → Bool} (outside : p '\t' = false ∧ p '\r' = false ∧ p '\n' = false)
    {character : Char} (inside : p character = true) :
    IsStraight character := by
  rw [isStraight_iff]
  refine ⟨?_, ?_, ?_⟩ <;> rintro rfl
  · exact absurd inside (ne_true_of_eq_false outside.1)
  · exact absurd inside (ne_true_of_eq_false outside.2.1)
  · exact absurd inside (ne_true_of_eq_false outside.2.2)

/-- What the comment pass shows is never a tab or a line break. -/
theorem isStraight_straighten (character : Char) :
    IsStraight (Segment.straighten character) := by
  by_cases blank : character = '\t' ∨ character = '\r' ∨ character = '\n'
  · have shown : Segment.straighten character = ' ' := by
      rw [Segment.straighten, if_pos blank]
    rw [shown]
    rfl
  · have shown : Segment.straighten character = character := by
      rw [Segment.straighten, if_neg blank]
    rw [shown]
    exact shown

theorem isStraight_of_mem_visible
    {segment : Segment} {character : Char} (member : character ∈ segment.visible) :
    IsStraight character := by
  cases segment with
  | plain first =>
      rw [List.mem_singleton.1 member]
      exact isStraight_straighten first
  | quoted characters =>
      rcases List.mem_map.1 member with ⟨original, -, rfl⟩
      exact isStraight_straighten original
  | comment characters =>
      rw [(List.mem_replicate.1 member).2]
      rfl

theorem isStraight_of_mem_normalize
    {text : List Char} {character : Char} (member : character ∈ normalize text) :
    IsStraight character := by
  rcases List.mem_flatMap.1 member with ⟨segment, -, shown⟩
  exact isStraight_of_mem_visible shown

/-! ## The first segment -/

/-- The first two characters tell what comment starts a text. -/
theorem commentLength?_cons_cons (first second : Char) (rest : List Char) :
    commentLength? (first :: second :: rest) =
      if first = '/' ∧ second = '/' then
        some ((rest.takeWhile (· != '\n')).length + 2)
      else if first = '/' ∧ second = '*' then
        (blockEnd? rest).map (· + 2)
      else
        none := by
  unfold commentLength?
  split
  · rename_i same
    cases same
    simp
  · rename_i same
    cases same
    simp
  · rename_i noLine noBlock
    have notLine : ¬ (first = '/' ∧ second = '/') := by
      rintro ⟨rfl, rfl⟩
      exact noLine rest rfl
    have notBlock : ¬ (first = '/' ∧ second = '*') := by
      rintro ⟨rfl, rfl⟩
      exact noBlock rest rfl
    rw [if_neg notLine, if_neg notBlock]

theorem commentLength?_eq_none_of_head
    {first : Char} (noSlash : first ≠ '/') (rest : List Char) :
    commentLength? (first :: rest) = none := by
  rw [commentLength?.eq_3]
  · rintro later same
    exact noSlash (List.cons.inj same).1
  · rintro later same
    exact noSlash (List.cons.inj same).1

theorem normalize_nil : normalize [] = [] := by
  rw [normalize, segments]
  rfl

theorem normalize_cons (first : Char) (rest : List Char) :
    normalize (first :: rest) =
      (leadingSegment first rest).visible ++
        normalize ((first :: rest).drop (leadingSegment first rest).source.length) := by
  rw [normalize, segments, List.flatMap_cons, normalize]

/-- A character that starts neither a quoted text nor a comment stands for itself. -/
theorem normalize_cons_of_plain
    {first : Char} {rest : List Char}
    (noQuote : quotedLength? (first :: rest) = none)
    (noComment : commentLength? (first :: rest) = none)
    (straight : IsStraight first) :
    normalize (first :: rest) = first :: normalize rest := by
  have segment : leadingSegment first rest = .plain first := by
    rw [leadingSegment, noQuote, noComment]
  rw [normalize_cons, segment, Segment.visible, straight]
  rfl

/-- A character other than a quote and a slash starts neither a quoted text nor a comment. -/
theorem leadingSegment_of_opensSegment
    {first : Char} (plain : opensSegment first = false) (rest : List Char) :
    leadingSegment first rest = .plain first := by
  rw [opensSegment, Bool.or_eq_false_iff] at plain
  have noQuote := quotedLength?_eq_none_of_head plain.1 rest
  rw [leadingSegment, noQuote, commentLength?_eq_none_of_head (ne_of_beq_false plain.2)]

/-- A character other than a quote and a slash stands for itself. -/
theorem normalize_cons_of_opensSegment
    {first : Char} (plain : opensSegment first = false) (straight : IsStraight first)
    (rest : List Char) :
    normalize (first :: rest) = first :: normalize rest := by
  rw [normalize_cons, leadingSegment_of_opensSegment plain, Segment.visible, straight]
  rfl

/-- Characters that have no part in comments or quoted texts stand for themselves. -/
theorem normalize_append_of_plain
    {piece : List Char}
    (plain : ∀ character ∈ piece, opensSegment character = false)
    (straight : ∀ character ∈ piece, IsStraight character) (rest : List Char) :
    normalize (piece ++ rest) = piece ++ normalize rest := by
  induction piece with
  | nil => rfl
  | cons first later hypothesis =>
      have others := hypothesis
        (fun character member => plain character (List.mem_cons_of_mem _ member))
        (fun character member => straight character (List.mem_cons_of_mem _ member))
      rw [List.cons_append, normalize_cons_of_opensSegment (plain first List.mem_cons_self)
        (straight first List.mem_cons_self), others, List.cons_append]

/-- A quoted text is a segment of its own. -/
theorem leadingSegment_of_quoted
    {quote : Char} {body : List Char} (isOne : isQuote quote = true) (fresh : quote ∉ body)
    (rest : List Char) :
    leadingSegment quote (body ++ quote :: rest) = .quoted (quote :: (body ++ [quote])) := by
  rw [leadingSegment, quotedLength?_of_fresh isOne fresh]
  simp only
  rw [← enclosed_append quote quote body rest, ← length_enclosed quote quote, List.take_left]

theorem isStraight_of_isQuote {quote : Char} (isOne : isQuote quote = true) : IsStraight quote :=
  isStraight_of_class (by decide) isOne

/-- No quote comes of what is shown otherwise. -/
theorem not_mem_map_straighten
    {quote : Char} {body : List Char} (isOne : isQuote quote = true) (fresh : quote ∉ body) :
    quote ∉ body.map Segment.straighten := by
  intro member
  rcases List.mem_map.1 member with ⟨original, inBody, same⟩
  rw [Segment.straighten] at same
  split at same
  · rw [← same] at isOne
    cases isOne
  · exact fresh (same ▸ inBody)

/-- In a quoted text tabs and line breaks are shown as spaces. -/
theorem normalize_cons_of_quoted
    {quote : Char} {body : List Char} (isOne : isQuote quote = true) (fresh : quote ∉ body)
    (rest : List Char) :
    normalize (quote :: (body ++ quote :: rest)) =
      quote :: (body.map Segment.straighten ++ quote :: normalize rest) := by
  have straightQuote : Segment.straighten quote = quote := isStraight_of_isQuote isOne
  rw [normalize_cons, leadingSegment_of_quoted isOne fresh, Segment.visible, Segment.source,
    ← enclosed_append quote quote body rest, List.drop_left]
  simp [straightQuote]

/-- A quoted text without tabs and line breaks stands for itself. -/
theorem normalize_append_of_quoted
    {quote : Char} {body : List Char}
    (isOne : isQuote quote = true) (fresh : quote ∉ body)
    (straight : ∀ character ∈ body, IsStraight character) (rest : List Char) :
    normalize (quote :: (body ++ quote :: rest)) =
      quote :: (body ++ quote :: normalize rest) := by
  have same : body.map Segment.straighten = body := by
    rw [List.map_congr_left straight]
    exact List.map_id body
  rw [normalize_cons_of_quoted isOne fresh, same]

end FindQuery.Lexis
