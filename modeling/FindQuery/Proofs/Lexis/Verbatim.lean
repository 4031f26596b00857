import FindQuery.Proofs.Lexis.Partition

/-!
# Token texts as they were written

The scanner reads a copy of the query in which tabs and line breaks are spaces.  Strings
alone can hold one of these, so every other token has the text that was written.  The text
of a string is what was written between its quotes with a space for every tab and every
line break, and so the text as written exactly when there is none between the quotes.
-/

namespace FindQuery.Lexis

open FindQuery.Text

/-! ## Straightened texts -/

/-- A text is shown as it is exactly when each of its characters is. -/
theorem map_straighten_eq_self_iff (text : List Char) :
    text.map Segment.straighten = text ↔ ∀ character ∈ text, IsStraight character := by
  induction text with
  | nil => simp
  | cons first rest hypothesis =>
      rw [List.map_cons, List.cons.injEq, hypothesis, List.forall_mem_cons]
      rfl

/-- A text that is shown between two characters other than blanks was written between them. -/
theorem exists_enclosed_of_map_straighten
    {written body : List Char} {opening closing : Char}
    (shown : written.map Segment.straighten = opening :: (body ++ [closing]))
    (opens : isBlank opening = false) (closes : isBlank closing = false) :
    ∃ inner, written = opening :: (inner ++ [closing]) ∧
      inner.map Segment.straighten = body := by
  rcases List.map_eq_cons_iff.1 shown with ⟨first, rest, rfl, isOpening, shownRest⟩
  rcases List.map_eq_append_iff.1 shownRest with ⟨inner, last, rfl, shownInner, shownLast⟩
  rcases List.map_eq_singleton_iff.1 shownLast with ⟨final, rfl, isClosing⟩
  rw [eq_of_straighten_eq isOpening opens, eq_of_straighten_eq isClosing closes]
  exact ⟨inner, rfl, shownInner⟩

/-- Stripping a lexeme and straightening it can be done in either order. -/
theorem Strips.exists_of_straightened
    {tag : Tag} {written text : List Char}
    (strips : Strips tag (written.map Segment.straighten) text) :
    ∃ inner, Strips tag written inner ∧ text = inner.map Segment.straighten := by
  generalize shown : written.map Segment.straighten = lexeme at strips
  cases strips with
  | quotes isOne =>
      have visible := isBlank_eq_false_of_isQuote isOne
      rcases exists_enclosed_of_map_straighten shown visible visible with ⟨inner, rfl, same⟩
      exact ⟨inner, .quotes isOne, same.symm⟩
  | brackets =>
      rcases exists_enclosed_of_map_straighten shown (by decide) (by decide) with
        ⟨inner, rfl, same⟩
      exact ⟨inner, .brackets, same.symm⟩
  | nothing noString noBracket =>
      refine ⟨written, .nothing noString ?_, shown.symm⟩
      intro isIdent starts
      apply noBracket isIdent
      rw [← shown, List.head?_map, starts]
      rfl

theorem Strips.subset
    {tag : Tag} {lexeme text : List Char} (strips : Strips tag lexeme text) :
    text ⊆ lexeme := by
  cases strips with
  | quotes isOne =>
      exact List.Subset.trans (List.subset_append_left _ _) (List.subset_cons_self _ _)
  | brackets => exact List.Subset.trans (List.subset_append_left _ _) (List.subset_cons_self _ _)
  | nothing noString noBracket => exact List.Subset.refl lexeme

/-! ## The pieces of a token -/

/-- Segments other than comments are shown character by character. -/
theorem visibleOf_eq_map_straighten
    {pieces : List Segment} (noComment : ∀ segment ∈ pieces, segment.isComment = false) :
    visibleOf pieces = (sourceOf pieces).map Segment.straighten := by
  induction pieces with
  | nil => rfl
  | cons segment later hypothesis =>
      rcases List.forall_mem_cons.1 noComment with ⟨here, others⟩
      rw [visibleOf_cons, sourceOf_cons, List.map_append, hypothesis others]
      cases segment with
      | plain character => rfl
      | quoted characters => rfl
      | comment characters => cases here

theorem Carries.map_straighten
    {pieces : List Segment} {lexeme : List Char} {token : Token}
    (carries : Carries pieces lexeme token) :
    (sourceOf pieces).map Segment.straighten = lexeme := by
  rw [← visibleOf_eq_map_straighten carries.isComment_eq_false, carries.shown]

/-- A lexeme other than a string is written as it is shown. -/
theorem Carries.sourceOf_eq
    {pieces : List Segment} {lexeme : List Char} {token : Token}
    (carries : Carries pieces lexeme token) (noString : token.tag ≠ .string) :
    sourceOf pieces = lexeme := by
  rw [carries.plain noString, sourceOf, List.flatMap_map]
  exact List.flatMap_singleton' lexeme

/-! ## Tokens of a query -/

/--
The text of a token is what was written at its bytes, less quotes or brackets, with tabs and
line breaks shown as spaces.  It is what was written exactly when there is no tab and no line
break in it, and it always is unless the token is a string.
-/
theorem text_of_tokenize
    {query : String} {tokens : List Token} (tokenized : tokenize query = .ok tokens) :
    ∀ token ∈ tokens, ∃ written text,
      token.span.slice? query.toList = some written ∧ Strips token.tag written text ∧
        token.text.toList = text.map Segment.straighten ∧
          (token.text.toList = text ↔
            ∀ character ∈ text, character ≠ '\t' ∧ character ≠ '\r' ∧ character ≠ '\n') ∧
              (token.tag ≠ .string → token.text.toList = text) := by
  intro token member
  rcases (exists_cuts_of_tokenize tokenized).exists_pieces token member with
    ⟨passed, carried, later, lexeme, split, carries, spanned⟩
  have sliced : token.span.slice? query.toList = some (sourceOf carried) := by
    rw [spanned, ← sourceOf_segments query.toList, split, sourceOf_append, sourceOf_append,
      Nat.zero_add, Span.slice?_append]
  have strips := carries.isLexeme.strips carries.meaning
  rw [← carries.map_straighten] at strips
  rcases strips.exists_of_straightened with ⟨text, stripped, same⟩
  refine ⟨sourceOf carried, text, sliced, stripped, same, ?_, ?_⟩
  · simp only [same, map_straighten_eq_self_iff, isStraight_iff]
  · intro noString
    have straight := carries.map_straighten
    rw [carries.sourceOf_eq noString, map_straighten_eq_self_iff] at straight
    rw [carries.sourceOf_eq noString] at stripped
    rw [same, map_straighten_eq_self_iff]
    exact fun character inText => straight character (stripped.subset inText)

/-- A name in brackets, and a string with a tab, a line break and a comment marker in it. -/
def brokenStringTokens : List Token :=
  [⟨.literal, .ident, "day", ⟨0, 5⟩⟩, ⟨.equal, .equal, "=", ⟨5, 6⟩⟩,
    ⟨.literal, .string, "é  // π ", ⟨13, 25⟩⟩]

theorem brokenStringTokens_text :
    tokenize "[day]=/*\t*/ \n'é\t // π\n'" = .ok brokenStringTokens ∧
      ∀ token ∈ brokenStringTokens, ∃ written text,
        token.span.slice? "[day]=/*\t*/ \n'é\t // π\n'".toList = some written ∧
          Strips token.tag written text ∧
            token.text.toList = text.map Segment.straighten ∧
              (token.text.toList = text ↔
                ∀ character ∈ text,
                  character ≠ '\t' ∧ character ≠ '\r' ∧ character ≠ '\n') ∧
                (token.tag ≠ .string → token.text.toList = text) := by
  have tokenized : tokenize "[day]=/*\t*/ \n'é\t // π\n'" = .ok brokenStringTokens := by
    decide +kernel
  exact ⟨tokenized, text_of_tokenize tokenized⟩

/-- The tab between the quotes is lost. -/
theorem text_of_string_with_tab :
    tokenize "'a\tb'" = .ok [⟨.literal, .string, "a b", ⟨0, 5⟩⟩] ∧
      ¬ ∀ query tokens, tokenize query = .ok tokens →
          ∀ token ∈ tokens, ∃ written,
            token.span.slice? query.toList = some written ∧
              Strips token.tag written token.text.toList := by
  have tokenized : tokenize "'a\tb'" = .ok [⟨.literal, .string, "a b", ⟨0, 5⟩⟩] := by
    decide +kernel
  refine ⟨tokenized, ?_⟩
  intro verbatim
  rcases verbatim _ _ tokenized _ List.mem_cons_self with ⟨written, sliced, strips⟩
  have same : Span.slice? ⟨0, 5⟩ "'a\tb'".toList = some "'a\tb'".toList := by
    decide +kernel
  cases same.symm.trans sliced
  have inside := strips.subset (show ' ' ∈ "a b".toList by decide)
  revert inside
  decide

end FindQuery.Lexis
