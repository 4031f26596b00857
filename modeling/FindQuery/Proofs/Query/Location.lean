import FindQuery.Proofs.Grammar.Fault
import FindQuery.Proofs.Lexis.Partition

/-!
# Where errors are

Every error points between two characters of the query and quotes the query from there
on.  What stands there is what was wrong: a character that no token starts with, a token
of the statement, or the end of a query that ended too early.
-/

namespace FindQuery

open FindQuery.Text

theorem Location.ofOffset_of_append
    {query : String} {before after : List Char} (whole : query.toList = before ++ after) :
    Location.ofOffset query (byteLength before) =
      ⟨byteLength before, String.ofList after⟩ := by
  rw [Location.ofOffset, whole, splitBytes?_byteLength]

/-- An error at a place of a query where something is wrong. -/
structure QueryError.IsFaithful (error : QueryError) (query : String) : Prop where
  inside : error.location.offset ≤ query.utf8ByteSize
  near : ∃ before,
    query.toList = before ++ error.location.near.toList ∧
      byteLength before = error.location.offset
  /-- All before the place was read, and what stands there cannot be skipped. -/
  lexical : error.cause.isLexical = true →
    error.location.offset < query.utf8ByteSize ∧
      (∀ first ∈ error.location.near.toList.head?, isBlank first = false) ∧
        (∀ comment ∈ Lexis.commentSpans query.toList,
          ¬ comment.Covers error.location.offset) ∧
          ∀ place < error.location.offset,
            (∃ token ∈ (Lexis.scan (Lexis.startOf query)).tokens, token.span.Covers place) ∨
              Lexis.IsSkipped query.toList place
  /-- The place is the start of a token before the first pipe or the end of the query. -/
  grammatical : error.cause.isLexical = false →
    ∃ tokens,
      Lexis.tokenize query = .ok tokens ∧
        ((∃ token ∈ Grammar.statementTokens tokens,
            error.location.offset = token.span.start) ∨
          error.location.offset = query.utf8ByteSize)

namespace Query

open FindQuery.Grammar
open FindQuery.Lexis
open FindQuery.Time

/-- The place where a scan fails is one where something is wrong. -/
theorem isFaithful_of_tokenize
    {query : String} {error : QueryError} (failed : tokenize query = .error error) :
    error.IsFaithful query := by
  rcases (tokenize_eq_error_iff query error).1 failed with ⟨cause, offset, faulty, rfl⟩
  rcases exists_cuts_scan 0 query.toList with ⟨stop, unread, cuts, solid, ended⟩
  rw [startOf] at faulty
  rw [faulty] at ended
  rcases ended with ⟨nothing, -⟩ | ⟨found, same, nonempty⟩
  · cases nothing
  cases same
  rcases cuts.exists_passed with ⟨passed, split, place⟩
  rw [Nat.zero_add] at place
  have whole : query.toList = sourceOf passed ++ unread := by
    rw [← sourceOf_segments query.toList, split, sourceOf_append, sourceOf_segments]
  have located : Location.ofOffset query offset = ⟨offset, String.ofList unread⟩ := by
    rw [place]
    exact Location.ofOffset_of_append whole
  rw [errorOf, located]
  rcases List.exists_cons_of_ne_nil nonempty with ⟨first, rest, rfl⟩
  have before : offset < query.utf8ByteSize := by
    have positive := first.utf8Size_pos
    rw [utf8ByteSize_eq_byteLength, whole, byteLength_append, byteLength_cons]
    omega
  constructor
  case inside => exact Nat.le_of_lt before
  case near =>
    refine ⟨sourceOf passed, ?_, place.symm⟩
    rw [String.toList_ofList, whole]
  case lexical =>
    rintro -
    refine ⟨before, ?_, cuts.not_covers_comment solid, ?_⟩
    · rw [segments] at solid
      have visible := (exists_visible_leadingSegment (solid _ rfl)).1
      simpa using visible
    · intro other earlier
      rcases cuts.covered (Nat.zero_le other) earlier with
        inToken | ⟨span, segment, member, space, covers⟩
      · exact .inl inToken
      · exact .inr (isSkipped_of_mem_layout member space covers)
  case grammatical =>
    intro grammatical
    cases grammatical

/-- The tokens that are left at the end of a query start between two of its characters. -/
theorem exists_split_offsetOf
    {query : String} {tokens rest : List Token} (tokenized : tokenize query = .ok tokens)
    (left : ∀ token ∈ rest, token ∈ tokens) :
    ∃ before after,
      query.toList = before ++ after ∧ offsetOf query rest = byteLength before := by
  cases rest with
  | nil => exact ⟨query.toList, [], (List.append_nil _).symm, utf8ByteSize_eq_byteLength query⟩
  | cons token later =>
      rcases exists_slice_of_tokenize tokenized token (left token List.mem_cons_self) with
        ⟨before, part, following, whole, spanned⟩
      refine ⟨before, part ++ following, whole, ?_⟩
      rw [offsetOf, spanned]

/-- The place where a statement fails is one of its tokens or the end of the query. -/
theorem isFaithful_of_ofTokens
    {query : String} {tokens : List Token} {now : Instant} {error : QueryError}
    (tokenized : tokenize query = .ok tokens) (failed : ofTokens query tokens now = .error error) :
    error.IsFaithful query := by
  have orderly := orderly_readStatement now (remainderTokens tokens) (statementTokens tokens)
  rw [ofTokens] at failed
  split at failed
  · cases failed
  rename_i fault unread read
  rw [read] at orderly
  cases failed
  rcases orderly with ⟨suffix, grammatical⟩
  have inStatement : ∀ token ∈ fault.rest, token ∈ statementTokens tokens :=
    fun token member => suffix.subset member
  have inTokens : ∀ token ∈ fault.rest, token ∈ tokens :=
    fun token member => (List.takeWhile_prefix _).subset (inStatement token member)
  rcases exists_split_offsetOf tokenized inTokens with ⟨before, after, whole, place⟩
  have located : locationOf query fault.rest = ⟨byteLength before, String.ofList after⟩ := by
    rw [locationOf, place, Location.ofOffset_of_append whole]
  rw [Fault.toError, located]
  constructor
  case inside =>
    rw [utf8ByteSize_eq_byteLength, whole, byteLength_append]
    exact Nat.le_add_right _ _
  case near =>
    refine ⟨before, ?_, rfl⟩
    rw [String.toList_ofList, whole]
  case lexical =>
    intro lexical
    rw [grammatical] at lexical
    cases lexical
  case grammatical =>
    rintro -
    refine ⟨tokens, tokenized, ?_⟩
    cases blamed : fault.rest with
    | nil =>
        rw [blamed] at place
        exact .inr place.symm
    | cons token later =>
        rw [blamed] at place inStatement
        exact .inl ⟨token, inStatement token List.mem_cons_self, place.symm⟩

/-- Every error is at a place of the query where something is wrong. -/
theorem isFaithful_of_parse
    {query : String} {now : Instant} {error : QueryError}
    (failed : parse query now = .error error) :
    error.IsFaithful query := by
  rw [parse] at failed
  split at failed
  · rename_i tokens tokenized
    exact isFaithful_of_ofTokens tokenized failed
  · rename_i found tokenized
    cases failed
    exact isFaithful_of_tokenize tokenized

/-- A character that starts no token, and a comma with no field after it. -/
theorem isFaithful_noMatch_expectedField :
    parse "find 'é' // ~\n/* ' */ ~" default =
        .error ⟨.lexical .noMatch, ⟨23, "~"⟩⟩ ∧
      QueryError.IsFaithful ⟨.lexical .noMatch, ⟨23, "~"⟩⟩ "find 'é' // ~\n/* ' */ ~" ∧
        parse "find 'é', since forever | sort" default =
            .error ⟨.expectedField, ⟨11, "since forever | sort"⟩⟩ ∧
          QueryError.IsFaithful ⟨.expectedField, ⟨11, "since forever | sort"⟩⟩
            "find 'é', since forever | sort" := by
  have noMatch : parse "find 'é' // ~\n/* ' */ ~" default =
      .error ⟨.lexical .noMatch, ⟨23, "~"⟩⟩ := by
    decide +kernel
  have expectedField : parse "find 'é', since forever | sort" default =
      .error ⟨.expectedField, ⟨11, "since forever | sort"⟩⟩ := by
    decide +kernel
  exact ⟨noMatch, isFaithful_of_parse noMatch, expectedField, isFaithful_of_parse expectedField⟩

end Query

end FindQuery
