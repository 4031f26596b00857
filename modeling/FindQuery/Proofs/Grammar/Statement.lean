import FindQuery.Proofs.Grammar.Condition
import FindQuery.Proofs.Grammar.Reference
import Mathlib.Data.List.TakeWhile

/-!
# Reading statements

A list of coherent tokens is accepted exactly when it spells a query, and the
result is the query that it spells.  A reader of one phrase looks at the token
after it to find the end of the phrase; the tokens that can follow a phrase in a
statement never go on with it, so nothing is lost by that.
-/

namespace FindQuery.Grammar

open FindQuery.Time

/-! ## Fields -/

theorem spellsField_of_readField
    {tokens rest : List Token} {field : Field}
    (read : readField tokens = .ok field rest) :
    ∃ used, tokens = used ++ rest ∧ SpellsField used field := by
  cases tokens with
  | nil => cases read
  | cons name later =>
      simp only [readField] at read
      split at read
      · rename_i starts
        have named : name.tag.isName = true := by
          simp only [startsField, Bool.and_eq_true] at starts
          exact starts.1
        split at read
        · rename_i renames
          cases later with
          | nil => simp [startsWith] at renames
          | cons word others =>
              have rename : word.kind = .rename := by
                simpa [startsWith] using renames
              cases others with
              | nil => cases read
              | cons label after =>
                  simp only [List.tail_cons] at read
                  split at read
                  · rename_i labelled
                    cases read
                    exact ⟨[name, word, label], rfl,
                      .renamed name word label named rename labelled⟩
                  · cases read
        · cases read
          exact ⟨[name], rfl, .plain name named⟩
      · cases read

theorem startsField_of_isName
    {name : Token} (coherent : IsCoherent name)
    (named : name.tag.isName = true) :
    startsField name = true := by
  simp [startsField, named, coherent.kind_of_isName named]

/-- Every spelling of a field is read when no `AS` follows it. -/
theorem readField_of_spellsField
    {used rest : List Token} {field : Field}
    (spelled : SpellsField used field)
    (coherent : ∀ token ∈ used, IsCoherent token)
    (noRename : startsWith .rename rest = false) :
    readField (used ++ rest) = .ok field rest := by
  cases spelled with
  | plain name named =>
      have starts := startsField_of_isName (coherent name (by simp)) named
      simp [readField, starts, noRename, Field.plain]
  | renamed name word label named rename labelled =>
      have starts := startsField_of_isName (coherent name (by simp)) named
      simp [readField, starts, startsWith, rename, labelled]

theorem SpellsFields.exists_name
    {used : List Token} {fields : List Field}
    (spelled : SpellsFields used fields) :
    ∃ name later, used = name :: later ∧ name.tag.isName = true := by
  rcases spelled.exists_first with ⟨phrase, field, later, rfl, first⟩
  cases first with
  | plain name named => exact ⟨name, later, rfl, named⟩
  | renamed name word label named => exact ⟨name, word :: label :: later, rfl, named⟩

/-- Fields are read one by one, and a comma asks for another one. -/
theorem readFields_eq (tokens : List Token) :
    readFields tokens =
      match readField tokens with
      | .error fault rest => .error fault rest
      | .ok field rest =>
          if startsWith .comma rest then
            if startsWithName rest.tail then
              match readFields rest.tail with
              | .error fault later => .error fault later
              | .ok fields later => .ok (field :: fields) later
            else
              .error ⟨.expectedField, rest.tail⟩ rest
          else
            .ok [field] rest := by
  rw [readFields]
  cases readField tokens with
  | error fault rest => rfl
  | ok field rest => rfl

theorem spellsFields_of_readFields
    {tokens rest : List Token} {fields : List Field}
    (read : readFields tokens = .ok fields rest) :
    ∃ used, tokens = used ++ rest ∧ SpellsFields used fields := by
  induction tokens using readFields.induct generalizing fields with
  | case1 tokens fault after failed =>
      rw [readFields_eq, failed] at read
      cases read
  | case2 tokens field after readHere hasComma hasName fault later failed hypothesis =>
      rw [readFields_eq, readHere] at read
      simp only [hasComma, hasName, if_true, failed] at read
      cases read
  | case3 tokens field after readHere hasComma hasName others later readLater hypothesis =>
      rw [readFields_eq, readHere] at read
      simp only [hasComma, hasName, if_true, readLater] at read
      cases read
      rcases spellsField_of_readField readHere with ⟨used, split, spelled⟩
      cases after with
      | nil => simp [startsWith] at hasComma
      | cons comma following =>
          rcases hypothesis readLater with ⟨usedLater, splitLater, spelledLater⟩
          rw [List.tail_cons] at splitLater
          refine ⟨used ++ comma :: usedLater, by rw [split, splitLater]; simp, ?_⟩
          exact .cons spelled comma (by simpa [startsWith] using hasComma) spelledLater
  | case4 tokens field after readHere hasComma noName =>
      rw [readFields_eq, readHere] at read
      simp only [hasComma, if_true, if_neg noName] at read
      cases read
  | case5 tokens field after readHere noComma =>
      rw [readFields_eq, readHere] at read
      simp only [if_neg noComma] at read
      cases read
      rcases spellsField_of_readField readHere with ⟨used, split, spelled⟩
      exact ⟨used, split, .single spelled⟩

/-- Every spelling of fields is read when neither `AS` nor a comma follows it. -/
theorem readFields_of_spellsFields
    {used rest : List Token} {fields : List Field}
    (spelled : SpellsFields used fields)
    (coherent : ∀ token ∈ used, IsCoherent token)
    (noRename : startsWith .rename rest = false)
    (noComma : startsWith .comma rest = false) :
    readFields (used ++ rest) = .ok fields rest := by
  induction spelled with
  | single first =>
      have read := readField_of_spellsField first coherent noRename
      rw [readFields_eq, read]
      simp [noComma]
  | @cons tokens later field fields first comma isComma others hypothesis =>
      have notRename : startsWith .rename (comma :: (later ++ rest)) = false := by
        simp [startsWith, isComma]
      have read := readField_of_spellsField first
        (fun token member => coherent token (by simp [member])) notRename
      have readLater := hypothesis (fun token member => coherent token (by simp [member]))
      rcases SpellsFields.exists_name others with ⟨name, following, rfl, named⟩
      rw [List.append_assoc, List.cons_append, readFields_eq, read]
      simp only [startsWith, isComma, beq_self_eq_true, if_true, List.tail_cons, readLater]
      simp [startsWithName, named]

theorem spellsSelection_of_readSelection
    {tokens rest : List Token} {all : Bool} {fields : List Field}
    (read : readSelection tokens = .ok (all, fields) rest) :
    ∃ used, tokens = used ++ rest ∧ SpellsSelection used all fields := by
  simp only [readSelection] at read
  split at read
  · rename_i hasAll
    cases tokens with
    | nil => simp [startsWith] at hasAll
    | cons word later =>
        cases read
        exact ⟨[word], rfl, .all word (by simpa [startsWith] using hasAll)⟩
  · split at read
    · cases read
    · split at read
      · split at read
        · cases read
        · rename_i readHere
          cases read
          rcases spellsFields_of_readFields readHere with ⟨used, split, spelled⟩
          exact ⟨used, split, .fields spelled⟩
      · cases read

/-- Every spelling of a selection is read when neither `AS` nor a comma follows it. -/
theorem readSelection_of_spellsSelection
    {used rest : List Token} {all : Bool} {fields : List Field}
    (spelled : SpellsSelection used all fields)
    (coherent : ∀ token ∈ used, IsCoherent token)
    (noRename : startsWith .rename rest = false)
    (noComma : startsWith .comma rest = false) :
    readSelection (used ++ rest) = .ok (all, fields) rest := by
  cases spelled with
  | all word isAll => simp [readSelection, startsWith, isAll]
  | fields spelled =>
      have read := readFields_of_spellsFields spelled coherent noRename noComma
      rcases spelled.exists_name with ⟨name, later, rfl, named⟩
      have isLiteral := (coherent name (by simp)).kind_of_isName named
      rw [List.cons_append] at read ⊢
      simp [readSelection, startsWith, isLiteral, startsWithName, named, read]

/-! ## Statements -/

theorem spellsMatching_of_readMatching
    {tokens rest : List Token} {condition : Option Condition}
    (read : readMatching tokens = .ok condition rest) :
    ∃ used, tokens = used ++ rest ∧ SpellsMatching used condition := by
  rcases (bind_eq_ok_iff _ _ _ _ _).1 read with ⟨present, middle, eaten, choice⟩
  cases present with
  | false =>
      rcases (eat_eq_ok_false_iff _ _ _).1 eaten with ⟨-, rfl⟩
      rcases (pure_eq_ok_iff _ _ _ _).1 choice with ⟨rfl, rfl⟩
      exact ⟨[], rfl, .absent⟩
  | true =>
      rcases (eat_eq_ok_true_iff _ _ _).1 eaten with ⟨word, isMatching, rfl⟩
      rcases (bind_eq_ok_iff _ _ _ _ _).1 choice with ⟨found, after, readHere, ending⟩
      rcases (pure_eq_ok_iff _ _ _ _).1 ending with ⟨rfl, rfl⟩
      rcases spellsAlternatives_of_readCondition readHere with ⟨used, rfl, spelled⟩
      exact ⟨word :: used, rfl, .present word isMatching spelled⟩

theorem SpellsRange.exists_word
    {now : Instant} {used : List Token} {range : TimeRange}
    (spelled : SpellsRange now used range) :
    ∃ word later, used = word :: later ∧ (word.kind = .since ∨ word.kind = .between) := by
  cases spelled with
  | since word isSince => exact ⟨word, _, rfl, .inl isSince⟩
  | between word isBetween => exact ⟨word, _, rfl, .inr isBetween⟩

/-- A range of time does not start with a word that goes on with an earlier phrase. -/
theorem SpellsRange.startsWith_eq_false
    {now : Instant} {used : List Token} {range : TimeRange}
    (spelled : SpellsRange now used range)
    {kind : Kind}
    (notSince : kind ≠ .since)
    (notBetween : kind ≠ .between) :
    startsWith kind used = false := by
  rcases spelled.exists_word with ⟨word, later, rfl, isSince | isBetween⟩
  · simp [startsWith, isSince, notSince.symm]
  · simp [startsWith, isBetween, notBetween.symm]

/-- A condition and a range of time start with no word that goes on with a selection. -/
theorem SpellsMatching.startsWith_eq_false
    {now : Instant} {matching used : List Token} {condition : Option Condition}
    {range : TimeRange}
    (matched : SpellsMatching matching condition)
    (spelled : SpellsRange now used range)
    {kind : Kind}
    (notMatching : kind ≠ .matching)
    (notSince : kind ≠ .since)
    (notBetween : kind ≠ .between) :
    startsWith kind (matching ++ used) = false := by
  cases matched with
  | absent => exact spelled.startsWith_eq_false notSince notBetween
  | present word isMatching _ => simp [startsWith, isMatching, notMatching.symm]

/-- Every spelling of the condition of a statement is read before a range of time. -/
theorem readMatching_of_spellsMatching
    {now : Instant} {matching used : List Token} {condition : Option Condition}
    {range : TimeRange}
    (matched : SpellsMatching matching condition)
    (spelled : SpellsRange now used range)
    (coherent : ∀ token ∈ matching, IsCoherent token) :
    readMatching (matching ++ used) = .ok condition used := by
  cases matched with
  | absent =>
      have noMatching := (eat_eq_ok_false_iff .matching used _).2
        ⟨spelled.startsWith_eq_false (by decide) (by decide), rfl⟩
      exact (bind_eq_ok_iff _ _ _ _ _).2 ⟨false, _, noMatching, rfl⟩
  | @present tokens condition word isMatching alternatives =>
      have eaten := (eat_eq_ok_true_iff .matching (word :: (tokens ++ used)) _).2
        ⟨word, isMatching, rfl⟩
      have read := readCondition_of_spellsAlternatives alternatives
        (fun token member => coherent token (by simp [member]))
        (spelled.startsWith_eq_false (by decide) (by decide))
        (spelled.startsWith_eq_false (by decide) (by decide))
      apply (bind_eq_ok_iff _ _ _ _ _).2
      refine ⟨true, _, eaten, (bind_eq_ok_iff _ _ _ _ _).2 ?_⟩
      exact ⟨condition, _, read, rfl⟩

/-- A statement is read to its end, in four phrases. -/
theorem readStatement_eq_ok_iff
    (now : Instant) (remainder tokens rest : List Token) (query : Query) :
    readStatement now remainder tokens = .ok query rest ↔
      ∃ word later afterSelection afterCondition all fields condition range,
        tokens = word :: later ∧ word.kind = .find ∧
          readSelection later = .ok (all, fields) afterSelection ∧
            readMatching afterSelection = .ok condition afterCondition ∧
              readRange now afterCondition = .ok range [] ∧
                rest = [] ∧ query = ⟨fields, all, condition, range, remainder⟩ := by
  constructor
  · intro read
    rcases (bind_eq_ok_iff _ _ _ _ _).1 read with ⟨isFind, later, eaten, run⟩
    cases isFind with
    | false => cases run
    | true =>
        rcases (eat_eq_ok_true_iff _ _ _).1 eaten with ⟨word, isFind, split⟩
        rcases (bind_eq_ok_iff _ _ _ _ _).1 run with
          ⟨⟨all, fields⟩, afterSelection, select, runLater⟩
        rcases (bind_eq_ok_iff _ _ _ _ _).1 runLater with
          ⟨condition, afterCondition, matched, runLast⟩
        rcases (bind_eq_ok_iff _ _ _ _ _).1 runLast with ⟨range, afterRange, ranged, close⟩
        rcases (bind_eq_ok_iff _ _ _ _ _).1 close with ⟨_, afterAll, ended, result⟩
        rcases (pure_eq_ok_iff _ _ _ _).1 result with ⟨rfl, rfl⟩
        cases afterRange with
        | nil =>
            cases ended
            exact ⟨word, later, afterSelection, afterCondition, all, fields, condition, range,
              split, isFind, select, matched, ranged, rfl, rfl⟩
        | cons token others => cases ended
  · rintro ⟨word, later, afterSelection, afterCondition, all, fields, condition, range,
      rfl, isFind, select, matched, ranged, rfl, rfl⟩
    have eaten := (eat_eq_ok_true_iff .find (word :: later) _).2 ⟨word, isFind, rfl⟩
    apply (bind_eq_ok_iff _ _ _ _ _).2
    refine ⟨true, _, eaten, (bind_eq_ok_iff _ _ _ _ _).2 ?_⟩
    refine ⟨(all, fields), _, select, (bind_eq_ok_iff _ _ _ _ _).2 ?_⟩
    refine ⟨condition, _, matched, (bind_eq_ok_iff _ _ _ _ _).2 ?_⟩
    exact ⟨range, _, ranged, rfl⟩

/-! ## Queries -/

/-- A token list has one statement and one remainder. -/
theorem partsAtPipe_iff (tokens statement remainder : List Token) :
    PartsAtPipe tokens statement remainder ↔
      statementTokens tokens = statement ∧ remainderTokens tokens = remainder := by
  have notPipe (token : Token) : (!isPipe token) = true ↔ token.kind ≠ .pipe := by
    simp [isPipe]
  constructor
  · intro parts
    cases parts with
    | whole unpiped =>
        have kept : ∀ token ∈ tokens, (!isPipe token) = true :=
          fun token member => (notPipe token).2 (unpiped token member)
        constructor
        · rw [statementTokens]
          exact List.takeWhile_eq_self_iff.2 kept
        · rw [remainderTokens, List.dropWhile_eq_nil_iff.2 kept, List.tail_nil]
    | piped unpiped pipe isPipe =>
        have kept : ∀ token ∈ statement, (!Grammar.isPipe token) = true :=
          fun token member => (notPipe token).2 (unpiped token member)
        have stops : (!Grammar.isPipe pipe) = false := by
          simp [Grammar.isPipe, isPipe]
        constructor
        · rw [statementTokens, List.takeWhile_append_of_pos kept, List.takeWhile_cons]
          simp [stops]
        · rw [remainderTokens, List.dropWhile_append_of_pos kept, List.dropWhile_cons]
          simp [stops]
  · rintro ⟨rfl, rfl⟩
    have unpiped : ∀ token ∈ statementTokens tokens, token.kind ≠ .pipe := by
      intro token member
      have kept := List.mem_takeWhile_imp (p := fun token => !isPipe token) member
      exact (notPipe token).1 kept
    have whole : statementTokens tokens ++ tokens.dropWhile (fun token => !isPipe token) =
        tokens := List.takeWhile_append_dropWhile
    cases after : tokens.dropWhile (fun token => !isPipe token) with
    | nil =>
        rw [after, List.append_nil] at whole
        have parts := PartsAtPipe.whole unpiped
        rw [whole] at parts ⊢
        rwa [remainderTokens, after, List.tail_nil]
    | cons pipe later =>
        have stops := List.head?_dropWhile_not (fun token => !isPipe token) tokens
        rw [after] at whole stops
        have isPipe : pipe.kind = .pipe := by
          simpa [Grammar.isPipe] using stops
        have parts : PartsAtPipe (statementTokens tokens ++ pipe :: later) _ later :=
          .piped unpiped pipe isPipe
        rw [whole] at parts
        rwa [remainderTokens, after, List.tail_cons]

theorem PartsAtPipe.mem_of_mem_statement
    {tokens statement remainder : List Token}
    (parts : PartsAtPipe tokens statement remainder)
    {token : Token}
    (member : token ∈ statement) :
    token ∈ tokens := by
  cases parts with
  | whole => exact member
  | piped => exact List.mem_append_left _ member

/-- Tokens make up a query when their statement is read; its remainder is handed on. -/
theorem ofTokens_eq_ok_iff
    (source : String) (tokens : List Token) (now : Instant) (query : Query) :
    Query.ofTokens source tokens now = .ok query ↔
      ∃ rest, readStatement now (remainderTokens tokens) (statementTokens tokens) =
        .ok query rest := by
  rw [Query.ofTokens]
  cases readStatement now (remainderTokens tokens) (statementTokens tokens) with
  | ok found rest => simp [eq_comm]
  | error fault rest => simp

/--
Coherent tokens are accepted exactly when they spell a query: `FIND`, a
selection, perhaps a condition and a range of time before the first pipe, and
nothing else.  The result is the query that they spell.
-/
theorem ofTokens_eq_ok_iff_spellsQuery
    (source : String) (tokens : List Token) (now : Instant)
    (coherent : ∀ token ∈ tokens, IsCoherent token)
    (query : Query) :
    Query.ofTokens source tokens now = .ok query ↔ SpellsQuery now tokens query := by
  rw [ofTokens_eq_ok_iff]
  constructor
  · rintro ⟨rest, read⟩
    obtain ⟨word, later, afterSelection, afterCondition, all, fields, condition, range,
      split, isFind, select, matched, ranged, -, rfl⟩ :=
        (readStatement_eq_ok_iff _ _ _ _ _).1 read
    rcases spellsSelection_of_readSelection select with ⟨selection, rfl, selected⟩
    rcases spellsMatching_of_readMatching matched with ⟨matching, rfl, conditioned⟩
    rcases spellsRange_of_readRange ranged with ⟨time, rfl, timed⟩
    rw [List.append_nil] at split
    exact .find word isFind ((partsAtPipe_iff _ _ _).2 ⟨split, rfl⟩)
      selected conditioned timed
  · intro spelled
    cases spelled with
    | @find selection matching range remainder all fields condition time word isFind
        parts selected matched ranged =>
        rcases (partsAtPipe_iff _ _ _).1 parts with ⟨statementEqual, remainderEqual⟩
        have coherentHere :
            ∀ token ∈ word :: (selection ++ (matching ++ range)), IsCoherent token :=
          fun token member => coherent token (parts.mem_of_mem_statement member)
        have follows (kind : Kind) (notMatching : kind ≠ .matching)
            (notSince : kind ≠ .since) (notBetween : kind ≠ .between) :
            startsWith kind (matching ++ range) = false :=
          matched.startsWith_eq_false ranged notMatching notSince notBetween
        have readFirst := readSelection_of_spellsSelection selected
          (fun token member => coherentHere token (by simp [member]))
          (follows .rename (by decide) (by decide) (by decide))
          (follows .comma (by decide) (by decide) (by decide))
        have readSecond := readMatching_of_spellsMatching matched ranged
          (fun token member => coherentHere token (by simp [member]))
        have readThird := readRange_of_spellsRange ranged
          (fun token member => coherentHere token (by simp [member])) []
        rw [List.append_nil] at readThird
        rw [statementEqual, remainderEqual]
        exact ⟨[], (readStatement_eq_ok_iff _ _ _ _ _).2
          ⟨word, _, _, _, all, fields, condition, time, rfl, isFind, readFirst, readSecond,
            readThird, rfl, rfl⟩⟩

/-- A token of a given kind, tag and text at no place in particular. -/
def looseToken (kind : Kind) (tag : Tag) (text : String) : Token :=
  ⟨kind, tag, text, ⟨0, 0⟩⟩

/-- `FIND a AS b, c MATCHING d = -1 OR e = 0.5 SINCE 2 DAYS AGO | SORT` -/
def renamedFieldTokens : List Token :=
  [looseToken .find .command "FIND", looseToken .literal .ident "a",
    looseToken .rename .rename "AS", looseToken .literal .string "b",
    looseToken .comma .comma ",", looseToken .literal .ident "c",
    looseToken .matching .condition "MATCHING", looseToken .literal .ident "d",
    looseToken .equal .equal "=", looseToken .minus .minus "-",
    looseToken .literal .int "1", looseToken .or .or "OR",
    looseToken .literal .ident "e", looseToken .equal .equal "=",
    looseToken .literal .float "0.5", looseToken .since .temporal "SINCE",
    looseToken .literal .int "2", looseToken .day .calendars "DAYS",
    looseToken .ago .relative "AGO", looseToken .pipe .pipe "|",
    looseToken .sort .subcommand "SORT"]

/-- What `renamedFieldTokens` ask for a billion seconds and five nanoseconds after the epoch. -/
def renamedFieldQuery : Query where
  fields := [⟨"a", "b"⟩, ⟨"c", "c"⟩]
  all := false
  condition := some
    ⟨[[⟨⟨.ident, "d"⟩, .equal, ⟨.int, "-1"⟩⟩], [⟨⟨.ident, "e"⟩, .equal, ⟨.float, "0.5"⟩⟩]]⟩
  range := ⟨999827200000000005, 1000000000000000005⟩
  remainder := [looseToken .sort .subcommand "SORT"]

theorem renamedFieldTokens_spell_query :
    (∀ token ∈ renamedFieldTokens, IsCoherent token) ∧
      SpellsQuery (.ofEpoch 1000000000 5 0) renamedFieldTokens renamedFieldQuery := by
  have coherent : ∀ token ∈ renamedFieldTokens, IsCoherent token := by
    decide
  have accepted : Query.ofTokens "" renamedFieldTokens (.ofEpoch 1000000000 5 0) =
      .ok renamedFieldQuery := by
    decide +kernel
  exact ⟨coherent,
    (ofTokens_eq_ok_iff_spellsQuery "" _ _ coherent renamedFieldQuery).1 accepted⟩

end FindQuery.Grammar
