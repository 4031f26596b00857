import FindQuery.Lexis.Scanner
import FindQuery.Proofs.Text.Run

/-!
# Runs of the scanner

A scan goes from position to position, one step for each token.  Its tokens are
those of the positions that it reaches, and its fault is that of the last one.
What a step preserves therefore holds at every position of a run.
-/

namespace FindQuery.Lexis

open FindQuery.Text

/-! ## Steps -/

/-- Skipping blanks leaves the text from the first character that is none. -/
theorem rest_skipBlanks (position : Position) :
    position.skipBlanks.rest = position.rest.dropWhile isBlank := by
  rcases exists_run isBlank position.rest with ⟨run, rest, whole, taken, inside, ends⟩
  have dropped : position.rest.dropWhile isBlank = rest := by
    have split := List.takeWhile_append_dropWhile (p := isBlank) (l := position.rest)
    rw [taken] at split
    exact List.append_cancel_left (split.trans whole)
  rw [dropped, Position.skipBlanks, taken, Position.advance]
  simp only
  conv => lhs; rw [whole]
  exact List.drop_left

theorem step_eq_finished_iff (position : Position) :
    step position = .finished ↔ position.skipBlanks.rest = [] := by
  constructor
  · intro ended
    rw [step] at ended
    split at ended
    · assumption
    · rw [readToken] at ended
      split at ended
      · cases ended
      · simp only at ended
        split at ended <;> cases ended
  · intro nothing
    rw [step]
    simp [nothing]

theorem step_of_ne_nil
    {position : Position} (nonempty : position.skipBlanks.rest ≠ []) :
    step position = readToken position.skipBlanks := by
  rw [step]
  simp only [if_neg nonempty]

/-- A step reads a token where the first rule that matches finds a lexeme with a meaning. -/
theorem step_eq_token_iff (position after : Position) (token : Token) :
    step position = .token token after ↔
      ∃ length text,
        position.skipBlanks.rest ≠ [] ∧
          firstMatch? position.skipBlanks.rest = some (token.tag, length) ∧
            interpret? token.tag (position.skipBlanks.rest.take length) =
              some (token.kind, text) ∧
              token.text = String.ofList text ∧
                after = position.skipBlanks.advance length ∧
                  token.span = ⟨position.skipBlanks.offset, after.offset⟩ := by
  constructor
  · intro read
    have nonempty : position.skipBlanks.rest ≠ [] := by
      intro nothing
      rw [(step_eq_finished_iff position).2 nothing] at read
      cases read
    rw [step_of_ne_nil nonempty, readToken] at read
    split at read
    · cases read
    · rename_i tag length found
      simp only at read
      split at read
      · cases read
      · rename_i kind text meaning
        cases read
        exact ⟨length, text, nonempty, found, meaning, rfl, rfl, rfl⟩
  · rintro ⟨length, text, nonempty, found, meaning, written, rfl, spanned⟩
    rcases token with ⟨kind, tag, word, span⟩
    simp only at found meaning written spanned
    rw [step_of_ne_nil nonempty, readToken, found]
    simp only [meaning, written, spanned]

/-- A step fails where no rule matches or where the lexeme has no meaning. -/
theorem step_eq_fault_iff (position : Position) (cause : LexicalCause) (offset : Nat) :
    step position = .fault cause offset ↔
      position.skipBlanks.rest ≠ [] ∧ offset = position.skipBlanks.offset ∧
        ((firstMatch? position.skipBlanks.rest = none ∧ cause = .noMatch) ∨
          ∃ tag length,
            firstMatch? position.skipBlanks.rest = some (tag, length) ∧
              interpret? tag (position.skipBlanks.rest.take length) = none ∧
                cause = .unknownSymbol tag
                  (String.ofList (position.skipBlanks.rest.take length))) := by
  constructor
  · intro failed
    have nonempty : position.skipBlanks.rest ≠ [] := by
      intro nothing
      rw [(step_eq_finished_iff position).2 nothing] at failed
      cases failed
    rw [step_of_ne_nil nonempty, readToken] at failed
    split at failed
    · rename_i noRule
      cases failed
      exact ⟨nonempty, rfl, .inl ⟨noRule, rfl⟩⟩
    · rename_i tag length found
      simp only at failed
      split at failed
      · rename_i noMeaning
        cases failed
        exact ⟨nonempty, rfl, .inr ⟨tag, length, found, noMeaning, rfl⟩⟩
      · cases failed
  · rintro ⟨nonempty, rfl, ⟨noRule, rfl⟩ | ⟨tag, length, found, noMeaning, rfl⟩⟩
    · rw [step_of_ne_nil nonempty, readToken, noRule]
    · rw [step_of_ne_nil nonempty, readToken, found]
      simp only [noMeaning]

/-- A step does not move the end of the text. -/
theorem end_of_step
    {position after : Position} {token : Token} (read : step position = .token token after) :
    after.offset + byteLength after.rest = position.offset + byteLength position.rest := by
  have kept (start : Position) (count : Nat) :
      (start.advance count).offset + byteLength (start.advance count).rest =
        start.offset + byteLength start.rest := by
    rw [Position.advance, Nat.add_assoc, ← byteLength_append, List.take_append_drop]
  rcases (step_eq_token_iff _ _ _).1 read with ⟨length, text, -, -, -, -, rfl, -⟩
  exact (kept _ length).trans (kept position _)

/-! ## Texts in pieces -/

theorem advance_append (offset : Nat) (piece rest : List Char) :
    (⟨offset, piece ++ rest⟩ : Position).advance piece.length =
      ⟨offset + byteLength piece, rest⟩ := by
  rw [Position.advance, List.take_left, List.drop_left]

/-- Blanks before a text are skipped with those at its start. -/
theorem skipBlanks_append
    {run : List Char} (blank : ∀ character ∈ run, isBlank character = true)
    (offset : Nat) (rest : List Char) :
    (⟨offset, run ++ rest⟩ : Position).skipBlanks =
      (⟨offset + byteLength run, rest⟩ : Position).skipBlanks := by
  simp only [Position.skipBlanks, Position.advance, List.takeWhile_append_of_pos blank,
    List.length_append, List.take_length_add_append, List.drop_length_add_append,
    byteLength_append, Nat.add_assoc]

theorem skipBlanks_of_visible
    {rest : List Char} (visible : ∀ first ∈ rest.head?, isBlank first = false) (offset : Nat) :
    (⟨offset, rest⟩ : Position).skipBlanks = ⟨offset, rest⟩ := by
  have nothing : rest.takeWhile isBlank = [] := by
    cases rest with
    | nil => rfl
    | cons first later => simp [visible first rfl]
  rw [Position.skipBlanks, nothing]
  simp [Position.advance]

/-- Blanks before a text move its tokens on and change nothing else. -/
theorem step_append_of_blank
    {run : List Char} (blank : ∀ character ∈ run, isBlank character = true)
    (offset : Nat) (rest : List Char) :
    step ⟨offset, run ++ rest⟩ = step ⟨offset + byteLength run, rest⟩ := by
  rw [step, step, skipBlanks_append blank]

/-- A lexeme that is found and means something is read as a token. -/
theorem step_append
    {lexeme rest text : List Char} {tag : Tag} {kind : Kind}
    (found : firstMatch? (lexeme ++ rest) = some (tag, lexeme.length))
    (meaning : interpret? tag lexeme = some (kind, text))
    (visible : ∃ first later, lexeme = first :: later ∧ isBlank first = false) (offset : Nat) :
    step ⟨offset, lexeme ++ rest⟩ =
      .token ⟨kind, tag, String.ofList text, ⟨offset, offset + byteLength lexeme⟩⟩
        ⟨offset + byteLength lexeme, rest⟩ := by
  have skipped : (⟨offset, lexeme ++ rest⟩ : Position).skipBlanks = ⟨offset, lexeme ++ rest⟩ := by
    rcases visible with ⟨first, later, rfl, notBlank⟩
    exact skipBlanks_of_visible (by simpa using notBlank) offset
  have nonempty : lexeme ++ rest ≠ [] := by
    rcases visible with ⟨first, later, rfl, -⟩
    simp
  apply (step_eq_token_iff _ _ _).2
  rw [skipped]
  refine ⟨lexeme.length, text, nonempty, found, ?_, rfl, (advance_append _ _ _).symm, rfl⟩
  rw [List.take_left]
  exact meaning

/-! ## Runs -/

/-- The positions that a scan comes to, one step after the other. -/
inductive Reaches : Position → Position → Prop where
  | here
      (position : Position) :
      Reaches position position
  | later
      {start next position : Position} {token : Token}
      (read : step start = .token token next)
      (onward : Reaches next position) :
      Reaches start position

/-- What every step preserves holds at all positions that a scan comes to. -/
theorem Reaches.preserves
    {Invariant : Position → Prop}
    (preserved : ∀ position token after,
      Invariant position → step position = .token token after → Invariant after)
    {start position : Position} (reached : Reaches start position)
    (initial : Invariant start) :
    Invariant position := by
  induction reached with
  | here position => exact initial
  | later read onward hypothesis => exact hypothesis (preserved _ _ _ initial read)

theorem scan_of_finished {position : Position} (ended : step position = .finished) :
    scan position = ⟨[], none⟩ := by
  rw [scan]
  split <;> simp_all

theorem scan_of_fault
    {position : Position} {cause : LexicalCause} {offset : Nat}
    (failed : step position = .fault cause offset) :
    scan position = ⟨[], some (cause, offset)⟩ := by
  rw [scan]
  split <;> simp_all

theorem scan_of_token
    {position after : Position} {token : Token}
    (read : step position = .token token after) :
    scan position = ⟨token :: (scan after).tokens, (scan after).fault?⟩ := by
  rw [scan]
  split <;> simp_all

theorem scan_congr
    {position other : Position} (same : step position = step other) :
    scan position = scan other := by
  cases read : step other with
  | finished =>
      rw [scan_of_finished read, scan_of_finished (same.trans read)]
  | fault cause offset =>
      rw [scan_of_fault read, scan_of_fault (same.trans read)]
  | token token after =>
      exact (scan_of_token (same.trans read)).trans (scan_of_token read).symm

/-- What a step comes to when positions, tokens and faults are changed. -/
def Step.map (move : Position → Position) (carry : Token → Token)
    (blame : LexicalCause × Nat → LexicalCause × Nat) : Step → Step
  | .finished => .finished
  | .token read after => .token (carry read) (move after)
  | .fault cause offset => .fault (blame (cause, offset)).1 (blame (cause, offset)).2

/-- What every step does alike at other positions, a scan does alike. -/
theorem scan_of_step_map
    {move : Position → Position} {carry : Token → Token}
    {blame : LexicalCause × Nat → LexicalCause × Nat}
    (alike : ∀ position, step (move position) = (step position).map move carry blame)
    (position : Position) :
    scan (move position) =
      ⟨(scan position).tokens.map carry, (scan position).fault?.map blame⟩ := by
  induction position using scan.induct with
  | case1 position ended =>
      have moved := alike position
      rw [ended] at moved
      rw [scan_of_finished ended, scan_of_finished moved]
      rfl
  | case2 position cause offset failed =>
      have moved := alike position
      rw [failed] at moved
      rw [scan_of_fault failed, scan_of_fault moved]
      rfl
  | case3 position token after read hypothesis =>
      have moved := alike position
      rw [read] at moved
      rw [scan_of_token read, scan_of_token moved, hypothesis]
      rfl

/-- The tokens of a scan are those read at the positions that it comes to. -/
theorem mem_tokens_scan_iff (start : Position) (token : Token) :
    token ∈ (scan start).tokens ↔
      ∃ position after, Reaches start position ∧ step position = .token token after := by
  constructor
  · intro member
    induction start using scan.induct with
    | case1 start ended =>
        rw [scan_of_finished ended] at member
        cases member
    | case2 start cause offset failed =>
        rw [scan_of_fault failed] at member
        cases member
    | case3 start first after read hypothesis =>
        rw [scan_of_token read] at member
        rcases List.mem_cons.1 member with rfl | inLater
        · exact ⟨start, after, .here start, read⟩
        · rcases hypothesis inLater with ⟨position, next, reached, readThere⟩
          exact ⟨position, next, .later read reached, readThere⟩
  · rintro ⟨position, after, reached, readThere⟩
    induction reached with
    | here position =>
        rw [scan_of_token readThere]
        exact List.mem_cons_self
    | later read onward hypothesis =>
        rw [scan_of_token read]
        exact List.mem_cons_of_mem _ (hypothesis readThere)

/-- The fault of a scan is that of a position that it comes to. -/
theorem fault?_scan_eq_some_iff (start : Position) (cause : LexicalCause) (offset : Nat) :
    (scan start).fault? = some (cause, offset) ↔
      ∃ position, Reaches start position ∧ step position = .fault cause offset := by
  constructor
  · intro faulty
    induction start using scan.induct with
    | case1 start ended =>
        rw [scan_of_finished ended] at faulty
        cases faulty
    | case2 start found place failed =>
        rw [scan_of_fault failed] at faulty
        cases faulty
        exact ⟨start, .here start, failed⟩
    | case3 start first after read hypothesis =>
        rw [scan_of_token read] at faulty
        rcases hypothesis faulty with ⟨position, reached, failed⟩
        exact ⟨position, .later read reached, failed⟩
  · rintro ⟨position, reached, failed⟩
    induction reached with
    | here position => rw [scan_of_fault failed]
    | later read onward hypothesis =>
        rw [scan_of_token read]
        exact hypothesis failed

theorem isSuffix_of_step
    {position after : Position} {token : Token}
    (read : step position = .token token after) :
    after.rest <:+ position.rest := by
  rcases (step_eq_token_iff _ _ _).1 read with ⟨length, text, -, -, -, -, rfl, -⟩
  rw [Position.advance, rest_skipBlanks]
  exact (List.drop_suffix length _).trans (List.dropWhile_suffix isBlank)

theorem Reaches.isSuffix
    {start position : Position} (reached : Reaches start position) :
    position.rest <:+ start.rest := by
  apply Reaches.preserves _ reached
  · exact List.suffix_refl start.rest
  · intro position token after isSuffix read
    exact (isSuffix_of_step read).trans isSuffix

/-! ## Queries as tokens -/

theorem tokenize_eq_ok_iff (query : String) (tokens : List Token) :
    tokenize query = .ok tokens ↔ scan (startOf query) = ⟨tokens, none⟩ := by
  rw [tokenize]
  rcases scan (startOf query) with ⟨scanned, fault?⟩
  cases fault? with
  | none => simp
  | some fault => simp

theorem tokenize_eq_error_iff (query : String) (error : QueryError) :
    tokenize query = .error error ↔
      ∃ cause offset,
        (scan (startOf query)).fault? = some (cause, offset) ∧
          error = errorOf query cause offset := by
  rw [tokenize]
  rcases scan (startOf query) with ⟨scanned, fault?⟩
  cases fault? with
  | none => simp
  | some fault =>
      rcases fault with ⟨cause, offset⟩
      constructor
      · intro failed
        exact ⟨cause, offset, rfl, (Except.error.inj failed).symm⟩
      · rintro ⟨sameCause, sameOffset, same, rfl⟩
        cases same
        rfl

end FindQuery.Lexis
