import FindQuery.Proofs.Grammar.Statement
import FindQuery.Proofs.Lexis.Seam

/-!
# Queries in a pipe

A query that asks for something has no division in it, so nothing in its text reaches
over a line break.  After a line break and a pipe any text may follow: the query asks for
the same as before, and it hands on the tokens of that text.
-/

namespace FindQuery

open FindQuery.Lexis
open FindQuery.Time

namespace Grammar

/-! ## Phrases without division -/

/-- No token of a phrase divides. -/
def IsUndivided (tokens : List Token) : Prop :=
  ∀ token ∈ tokens, ¬ IsDivision token

theorem isUndivided_nil : IsUndivided [] := by
  simp [IsUndivided]

theorem isUndivided_cons {first : Token} {rest : List Token} :
    IsUndivided (first :: rest) ↔ ¬ IsDivision first ∧ IsUndivided rest :=
  List.forall_mem_cons

theorem isUndivided_append {phrase rest : List Token} :
    IsUndivided (phrase ++ rest) ↔ IsUndivided phrase ∧ IsUndivided rest :=
  List.forall_mem_append

theorem isUndivided_singleton {token : Token} : IsUndivided [token] ↔ ¬ IsDivision token :=
  List.forall_mem_singleton

theorem not_isDivision_of_kind
    {token : Token} {kind : Kind} (same : token.kind = kind) (other : kind ≠ .divide) :
    ¬ IsDivision token := by
  rintro ⟨divides, -⟩
  exact other (same.symm.trans divides)

theorem not_isDivision_of_tag
    {token : Token} {tag : Tag} (same : token.tag = tag) (other : tag ≠ .divide) :
    ¬ IsDivision token := by
  rintro ⟨-, divides⟩
  exact other (same.symm.trans divides)

theorem not_isDivision_of_isName
    {token : Token} (named : token.tag.isName = true) : ¬ IsDivision token := by
  rintro ⟨-, divides⟩
  rw [divides] at named
  cases named

theorem SpellsField.isUndivided
    {tokens : List Token} {field : Field} (spelled : SpellsField tokens field) :
    IsUndivided tokens := by
  cases spelled with
  | plain name named => exact isUndivided_singleton.2 (not_isDivision_of_isName named)
  | renamed name word label named rename labelled =>
      rw [isUndivided_cons, isUndivided_cons, isUndivided_singleton]
      exact ⟨not_isDivision_of_isName named, not_isDivision_of_kind rename Kind.noConfusion,
        not_isDivision_of_isName labelled⟩

/-- A list is without division where its items are and no division stands between them. -/
theorem Joined.isUndivided
    {Item : Type} {kind : Kind} {Spells : List Token → Item → Prop}
    {tokens : List Token} {items : List Item}
    (joined : Joined kind Spells tokens items) (other : kind ≠ .divide)
    (each : ∀ phrase item, Spells phrase item → IsUndivided phrase) :
    IsUndivided tokens :=
  joined.forall_mem (fun _ same => not_isDivision_of_kind same other) each

theorem SpellsSelection.isUndivided
    {tokens : List Token} {all : Bool} {fields : List Field}
    (spelled : SpellsSelection tokens all fields) :
    IsUndivided tokens := by
  cases spelled with
  | all word isAll => exact isUndivided_singleton.2 (not_isDivision_of_kind isAll Kind.noConfusion)
  | fields spelled => exact spelled.isUndivided Kind.noConfusion fun _ _ field => field.isUndivided

theorem SpellsValue.isUndivided
    {tokens : List Token} {value : Value} (spelled : SpellsValue tokens value) :
    IsUndivided tokens := by
  have literal {token : Token} {kind : ValueKind}
      (valued : ValueKind.ofTag? token.tag = some kind) : ¬ IsDivision token := by
    rintro ⟨-, divides⟩
    rw [divides] at valued
    cases valued
  cases spelled with
  | literal token kind valued => exact isUndivided_singleton.2 (literal valued)
  | signed sign number kind isSign numeric valued =>
      rw [isUndivided_cons, isUndivided_singleton]
      refine ⟨?_, literal valued⟩
      rcases isSign with isMinus | isPlus
      · exact not_isDivision_of_kind isMinus Kind.noConfusion
      · exact not_isDivision_of_kind isPlus Kind.noConfusion

theorem SpellsPredicate.isUndivided
    {tokens : List Token} {predicate : Predicate} (spelled : SpellsPredicate tokens predicate) :
    IsUndivided tokens := by
  cases spelled with
  | equal left sign isEqual right =>
      rw [isUndivided_append, isUndivided_cons]
      exact ⟨left.isUndivided, not_isDivision_of_kind isEqual Kind.noConfusion, right.isUndivided⟩

theorem SpellsConjunction.isUndivided
    {tokens : List Token} {predicates : List Predicate}
    (spelled : SpellsConjunction tokens predicates) :
    IsUndivided tokens :=
  Joined.isUndivided spelled Kind.noConfusion fun _ _ predicate => predicate.isUndivided

theorem SpellsMatching.isUndivided
    {tokens : List Token} {condition : Option Condition}
    (spelled : SpellsMatching tokens condition) :
    IsUndivided tokens := by
  cases spelled with
  | absent => exact isUndivided_nil
  | present word isMatching alternatives =>
      have undivided := alternatives.isUndivided Kind.noConfusion fun _ _ group => group.isUndivided
      exact isUndivided_cons.2 ⟨not_isDivision_of_kind isMatching Kind.noConfusion, undivided⟩

theorem SpellsReference.isUndivided
    {tokens : List Token} {reference : Reference} (spelled : SpellsReference tokens reference) :
    IsUndivided tokens := by
  have named {token : Token} {unit : TimeUnit} (isUnit : TimeUnit.ofKind? token.kind = some unit) :
      ¬ IsDivision token := by
    rintro ⟨divides, -⟩
    rw [divides] at isUnit
    cases isUnit
  cases spelled with
  | forever word isForever =>
      exact isUndivided_singleton.2 (not_isDivision_of_kind isForever Kind.noConfusion)
  | yesterday word isYesterday =>
      exact isUndivided_singleton.2 (not_isDivision_of_kind isYesterday Kind.noConfusion)
  | dayBeforeYesterday day before yesterday isDay isBefore isYesterday =>
      rw [isUndivided_cons, isUndivided_cons, isUndivided_singleton]
      exact ⟨not_isDivision_of_kind isDay Kind.noConfusion,
        not_isDivision_of_kind isBefore Kind.noConfusion,
        not_isDivision_of_kind isYesterday Kind.noConfusion⟩
  | last word name unit isLast isUnit =>
      rw [isUndivided_cons, isUndivided_singleton]
      refine ⟨?_, named isUnit⟩
      rcases isLast with isLast | isPrevious
      · exact not_isDivision_of_kind isLast Kind.noConfusion
      · exact not_isDivision_of_kind isPrevious Kind.noConfusion
  | beforeLast name before last unit isUnit isBefore isLast =>
      rw [isUndivided_cons, isUndivided_cons, isUndivided_singleton]
      exact ⟨named isUnit, not_isDivision_of_kind isBefore Kind.noConfusion,
        not_isDivision_of_kind isLast Kind.noConfusion⟩
  | ago number name word count unit isInt counted isUnit isAgo =>
      rw [isUndivided_cons, isUndivided_cons, isUndivided_singleton]
      exact ⟨not_isDivision_of_tag isInt Tag.noConfusion,
        named isUnit, not_isDivision_of_kind isAgo Kind.noConfusion⟩
  | stamp text isString =>
      exact isUndivided_singleton.2 (not_isDivision_of_tag isString Tag.noConfusion)

theorem SpellsRange.isUndivided
    {now : Instant} {tokens : List Token} {range : TimeRange}
    (spelled : SpellsRange now tokens range) :
    IsUndivided tokens := by
  cases spelled with
  | since word isSince reference resolved presented =>
      exact isUndivided_cons.2
        ⟨not_isDivision_of_kind isSince Kind.noConfusion, reference.isUndivided⟩
  | between word isBetween first firstResolved joint isAnd second secondResolved =>
      rw [isUndivided_cons, isUndivided_append, isUndivided_cons]
      exact ⟨not_isDivision_of_kind isBetween Kind.noConfusion, first.isUndivided,
        not_isDivision_of_kind isAnd Kind.noConfusion, second.isUndivided⟩

/-- A statement is without division, and it is read in the same way whatever it hands on. -/
theorem readStatement_ok
    {now : Instant} {remainder tokens rest : List Token} {query : Query}
    (read : readStatement now remainder tokens = .ok query rest) :
    IsUndivided tokens ∧
      ∀ other,
        readStatement now other tokens = .ok { query with remainder := other } rest := by
  obtain ⟨word, later, afterSelection, afterCondition, all, fields, condition, range, rfl, isFind,
    selected, matched, ranged, rfl, rfl⟩ := (readStatement_eq_ok_iff _ _ _ _ _).1 read
  constructor
  · rcases spellsSelection_of_readSelection selected with ⟨selection, rfl, spelledSelection⟩
    rcases spellsMatching_of_readMatching matched with ⟨matching, rfl, spelledMatching⟩
    rcases spellsRange_of_readRange ranged with ⟨time, rfl, spelledRange⟩
    rw [isUndivided_cons, isUndivided_append, isUndivided_append, isUndivided_append]
    exact ⟨not_isDivision_of_kind isFind Kind.noConfusion, spelledSelection.isUndivided,
      spelledMatching.isUndivided, spelledRange.isUndivided, isUndivided_nil⟩
  · intro other
    exact (readStatement_eq_ok_iff _ _ _ _ _).2 ⟨word, later, afterSelection, afterCondition,
      all, fields, condition, range, rfl, isFind, selected, matched, ranged, rfl, rfl⟩

end Grammar

namespace Query

open FindQuery.Grammar

/--
A query without a pipe, followed by a line break, a pipe and a text, asks for what it
asks for alone and hands on the tokens of the text, each at its place.
-/
theorem parse_pipe
    {query later : String} {now : Instant} {tokens laterTokens : List Token} {asked : Query}
    (tokenized : tokenize query = .ok tokens)
    (unpiped : ∀ token ∈ tokens, token.kind ≠ .pipe)
    (accepted : parse query now = .ok asked)
    (tokenizedLater : tokenize later = .ok laterTokens) :
    parse (query ++ "\n|" ++ later) now =
      .ok { asked with
        remainder := laterTokens.map (Token.shift (query.utf8ByteSize + 2)) } := by
  rw [parse, tokenized] at accepted
  rcases (ofTokens_eq_ok_iff _ _ _ _).1 accepted with ⟨rest, read⟩
  rw [((partsAtPipe_iff _ _ _).1 (.whole unpiped)).1] at read
  rcases readStatement_ok read with ⟨undivided, again⟩
  rw [parse, tokenize_pipe tokenized undivided tokenizedLater]
  rcases (partsAtPipe_iff _ _ _).1 (.piped unpiped (pipeAt (query.utf8ByteSize + 1)) rfl) with
    ⟨statement, remainder⟩
  apply (ofTokens_eq_ok_iff _ _ _ _).2
  rw [statement, remainder]
  exact ⟨rest, again _⟩

/-- A query that ends in a comment, with a pipe and a quote in comments. -/
def commentedTokens : List Token :=
  [⟨.find, .command, "find", ⟨0, 4⟩⟩, ⟨.literal, .string, "é", ⟨5, 9⟩⟩,
    ⟨.since, .temporal, "since", ⟨10, 15⟩⟩, ⟨.forever, .relative, "forever", ⟨16, 23⟩⟩]

/-- A text that would close a comment and a quoted text. -/
def closingTokens : List Token :=
  [⟨.times, .times, "*", ⟨0, 1⟩⟩, ⟨.divide, .divide, "/", ⟨1, 2⟩⟩,
    ⟨.literal, .string, "y", ⟨3, 6⟩⟩]

theorem parse_pipe_commentedTokens :
    ∃ now asked,
      tokenize "find 'é' since forever /* | */ // 'x" = .ok commentedTokens ∧
        (∀ token ∈ commentedTokens, token.kind ≠ .pipe) ∧
          parse "find 'é' since forever /* | */ // 'x" now = .ok asked ∧
            tokenize "*/ 'y'" = .ok closingTokens ∧
              parse "find 'é' since forever /* | */ // 'x\n|*/ 'y'" now =
                .ok { asked with remainder := closingTokens.map (Token.shift 39) } := by
  have tokenized : tokenize "find 'é' since forever /* | */ // 'x" = .ok commentedTokens := by
    decide +kernel
  have unpiped : ∀ token ∈ commentedTokens, token.kind ≠ .pipe := by
    decide
  have accepted : parse "find 'é' since forever /* | */ // 'x" ⟨⟨1680177600, 0⟩, 3600⟩ =
      .ok ⟨[⟨"é", "é"⟩], false, none, ⟨0, 1680174000000000000⟩, []⟩ := by
    decide +kernel
  have tokenizedLater : tokenize "*/ 'y'" = .ok closingTokens := by
    decide +kernel
  have text : "find 'é' since forever /* | */ // 'x" ++ "\n|" ++ "*/ 'y'" =
      "find 'é' since forever /* | */ // 'x\n|*/ 'y'" := by
    decide +kernel
  have size : "find 'é' since forever /* | */ // 'x".utf8ByteSize + 2 = 39 := by
    decide +kernel
  have piped := parse_pipe tokenized unpiped accepted tokenizedLater
  rw [text, size] at piped
  exact ⟨_, _, tokenized, unpiped, accepted, tokenizedLater, piped⟩

end Query

end FindQuery
