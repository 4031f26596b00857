import FindQuery.Proofs.Lexis.Rereading

/-!
# Queries spelled again

The spellings of the tokens of a query, with one space between them, make up a
query of the same tokens.  The space ends every lexeme, the comment pass leaves the
spellings alone, and the scanner skips the space, so the tokens come back one by
one at places of their own.
-/

namespace FindQuery

/-- What a token says: all but its place in the query. -/
def Token.contents (token : Token) : Kind × Tag × String :=
  (token.kind, token.tag, token.text)

namespace Lexis

open FindQuery.Text

/-- A space and a text, or nothing where there is no text. -/
def gapBefore : List Char → List Char
  | [] => []
  | first :: rest => ' ' :: first :: rest

/-- The spellings of some tokens with one space between them. -/
def respell : List Token → List Char
  | [] => []
  | token :: later => token.source.toList ++ gapBefore (respell later)

theorem isGap_gapBefore (text : List Char) : IsGap (gapBefore text) := by
  cases text with
  | nil => exact isGap_nil
  | cons first rest => exact isGap_cons _

/-- A token whose spelling is read as that token. -/
def Respells (token : Token) : Prop :=
  Rereads token.tag token.kind token.text.toList token.source.toList

theorem respell_ne_nil
    {token : Token} (again : Respells token) (later : List Token) :
    respell (token :: later) ≠ [] := by
  rcases again.visible with ⟨first, rest, spelled, -⟩
  simp [respell, spelled]

/-- Joining the spellings with spaces gives the text that `respell` describes. -/
theorem toList_intercalate_source
    {tokens : List Token} (again : ∀ token ∈ tokens, Respells token) :
    (" ".intercalate (tokens.map Token.source)).toList = respell tokens := by
  induction tokens with
  | nil => rfl
  | cons token later hypothesis =>
      have others := hypothesis fun other member => again other (List.mem_cons_of_mem _ member)
      cases later with
      | nil => simp [respell, gapBefore]
      | cons next remaining =>
          have nonempty := respell_ne_nil (again next (by simp)) remaining
          rcases List.exists_cons_of_ne_nil nonempty with ⟨first, rest, spelled⟩
          rw [List.map_cons, List.map_cons, String.intercalate_cons_cons, ← List.map_cons,
            String.toList_append, String.toList_append, others, respell.eq_2 token, spelled,
            gapBefore]
          simp

theorem normalize_respell
    {tokens : List Token} (again : ∀ token ∈ tokens, Respells token) :
    normalize (respell tokens) = respell tokens := by
  induction tokens with
  | nil => exact normalize_nil
  | cons token later hypothesis =>
      have others := hypothesis fun other member => again other (List.mem_cons_of_mem _ member)
      have gap : normalize (gapBefore (respell later)) = gapBefore (respell later) := by
        cases spelled : respell later with
        | nil => exact normalize_nil
        | cons first rest =>
            have straight : IsStraight ' ' := rfl
            rw [spelled] at others
            rw [gapBefore, normalize_cons_of_opensSegment rfl straight, others]
      rw [respell, (again token List.mem_cons_self).shown _ (isGap_gapBefore _), gap]

/-! ## Scanning the spellings -/

/-- A spelling before a gap is read as its token. -/
theorem exists_step_of_respells
    {token : Token} {gap : List Char} (again : Respells token) (blank : IsGap gap)
    (offset : Nat) :
    ∃ copy next,
      step ⟨offset, token.source.toList ++ gap⟩ = .token copy ⟨next, gap⟩ ∧
        copy.contents = token.contents := by
  have read := step_append (again.found gap blank) again.meaning again.visible offset
  exact ⟨_, _, read, by rw [String.ofList_toList]; rfl⟩

/-- The spellings of tokens are read as the same tokens at other places. -/
theorem exists_scan_respell
    {tokens : List Token} (again : ∀ token ∈ tokens, Respells token) (offset : Nat) :
    ∃ copies,
      scan ⟨offset, respell tokens⟩ = ⟨copies, none⟩ ∧
        copies.map Token.contents = tokens.map Token.contents := by
  induction tokens generalizing offset with
  | nil =>
      refine ⟨[], scan_of_finished ?_, rfl⟩
      rfl
  | cons token later hypothesis =>
      have others := hypothesis fun other member => again other (List.mem_cons_of_mem _ member)
      obtain ⟨copy, next, read, same⟩ := exists_step_of_respells
        (again token List.mem_cons_self) (isGap_gapBefore (respell later)) offset
      obtain ⟨copies, scanned, sames⟩ :
          ∃ copies, scan ⟨next, gapBefore (respell later)⟩ = ⟨copies, none⟩ ∧
            copies.map Token.contents = later.map Token.contents := by
        -- The gap is a space that the next step skips, or nothing after the last token.
        cases spelled : respell later with
        | nil =>
            obtain ⟨copies, scanned, sames⟩ := others next
            rw [spelled] at scanned
            exact ⟨copies, scanned, sames⟩
        | cons first rest =>
            obtain ⟨copies, scanned, sames⟩ := others (next + 1)
            rw [spelled] at scanned
            have skipped : step ⟨next, [' '] ++ first :: rest⟩ = step ⟨next + 1, first :: rest⟩ :=
              step_append_of_blank (List.forall_mem_singleton.2 rfl) next (first :: rest)
            exact ⟨copies, (scan_congr skipped).trans scanned, sames⟩
      refine ⟨copy :: copies, ?_, ?_⟩
      · rw [respell, scan_of_token read, scanned]
      · rw [List.map_cons, List.map_cons, same, sames]

theorem respells_of_tokenize
    {query : String} {tokens : List Token} (tokenized : tokenize query = .ok tokens) :
    ∀ token ∈ tokens, Respells token := by
  intro token member
  rw [tokenize_eq_ok_iff] at tokenized
  rcases (mem_tokens_scan_iff (startOf query) token).1 (tokenized ▸ member) with
    ⟨position, after, reached, read⟩
  have straight : ∀ character ∈ position.rest, IsStraight character := fun character inside =>
    isStraight_of_mem_normalize (reached.isSuffix.mem inside)
  exact rereads_of_step straight read

/-- The spellings of the tokens of a query, joined with spaces, have the same tokens. -/
theorem exists_tokenize_intercalate_source
    {query : String} {tokens : List Token} (tokenized : tokenize query = .ok tokens) :
    ∃ copies,
      tokenize (" ".intercalate (tokens.map Token.source)) = .ok copies ∧
        copies.map Token.contents = tokens.map Token.contents := by
  have again := respells_of_tokenize tokenized
  rcases exists_scan_respell again 0 with ⟨copies, scanned, same⟩
  refine ⟨copies, ?_, same⟩
  rw [tokenize_eq_ok_iff, startOf, toList_intercalate_source again, normalize_respell again]
  exact scanned

end Lexis

end FindQuery
