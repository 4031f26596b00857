import FindQuery.Lexis.Lexer
import FindQuery.Proofs.Lexis.Cut
import Mathlib.Data.List.TakeDrop

/-!
# Calls of a lexer

A lexer that is called again and again hands out the tokens of a scan, then the error of the
scan if it has one, and then nothing for ever.  Every token takes bytes of its own, so there
are no more tokens than bytes.
-/

namespace FindQuery.Lexis

open FindQuery.Text

/-! ## Single calls -/

namespace Lexer

variable {query : String} {position after : Position}

theorem next_of_finished (ended : step position = .finished) :
    next ⟨query, some position⟩ = (none, ⟨query, some position⟩) := by
  simp only [next, ended]

theorem next_of_token {token : Token} (read : step position = .token token after) :
    next ⟨query, some position⟩ = (some (.ok token), ⟨query, some after⟩) := by
  simp only [next, read]

theorem next_of_fault {cause : LexicalCause} {offset : Nat}
    (failed : step position = .fault cause offset) :
    next ⟨query, some position⟩ = (some (.error (errorOf query cause offset)), ⟨query, none⟩) := by
  simp only [next, failed]

/-- A lexer that has nothing more to give gives nothing at every call. -/
theorem take_of_next_eq_none {lexer : Lexer} (stopped : lexer.next = (none, lexer)) (count : Nat) :
    lexer.take count = List.replicate count none := by
  induction count with
  | zero => rfl
  | succ count hypothesis => rw [take, stopped, hypothesis, List.replicate_succ]

end Lexer

/-! ## Runs -/

/-- The results of the calls that give tokens, and of the call that gives an error. -/
def resultsOf (tokens : List Token) (error? : Option QueryError) :
    List (Option (Except QueryError Token)) :=
  (tokens.map fun token => some (.ok token)) ++ (error?.toList.map fun error => some (.error error))

/-- The error of a scan of a query. -/
def Scan.error? (result : Scan) (query : String) : Option QueryError :=
  result.fault?.map fun fault => errorOf query fault.1 fault.2

/-- A lexer gives what the scan from its position comes to, and then nothing. -/
theorem Lexer.take_eq (query : String) (position : Position) (count : Nat) :
    Lexer.take ⟨query, some position⟩ count =
      (resultsOf (scan position).tokens ((scan position).error? query)).takeD count none := by
  induction position using scan.induct generalizing count with
  | case1 position ended =>
      rw [scan_of_finished ended, take_of_next_eq_none (next_of_finished ended)]
      exact (List.takeD_nil count none).symm
  | case2 position cause offset failed =>
      rw [scan_of_fault failed]
      cases count with
      | zero => rfl
      | succ count =>
          have stopped : next ⟨query, none⟩ = (none, ⟨query, none⟩) := rfl
          rw [take, next_of_fault failed, take_of_next_eq_none stopped, List.takeD_succ]
          exact congrArg _ (List.takeD_nil count none).symm
  | case3 position token after read hypothesis =>
      rw [scan_of_token read]
      cases count with
      | zero => rfl
      | succ count =>
          rw [take, next_of_token read, hypothesis, List.takeD_succ]
          rfl

/-- The tokens, and the error if there is one, that a lexer of a query gives before it stops. -/
structure Lexer.Gives
    (query : String) (tokens : List Token) (error? : Option QueryError) : Prop where
  results : ∀ count,
    (ofQuery query).take count = (resultsOf tokens error?).takeD count none
  nonempty : ∀ token ∈ tokens, token.span.start < token.span.stop
  ordered : tokens.Pairwise fun earlier later => earlier.span.stop ≤ later.span.start
  few : tokens.length ≤ query.utf8ByteSize
  tokenized : tokenize query = error?.elim (.ok tokens) .error

/--
A lexer gives tokens one after the other, no more than the query has bytes, then at most one
error, and then nothing; together these are what the query is tokenized to.
-/
theorem Lexer.exists_gives (query : String) : ∃ tokens error?, Gives query tokens error? := by
  rcases exists_cuts_scan 0 query.toList with ⟨stop, unread, cuts, -, -⟩
  refine ⟨(scan (startOf query)).tokens, (scan (startOf query)).error? query, ?_⟩
  constructor
  case results => exact Lexer.take_eq query (startOf query)
  case nonempty => exact cuts.start_lt_stop
  case ordered => exact cuts.pairwise
  case few =>
    have taken := cuts.add_length_le
    have inside := cuts.stop_le
    rw [sourceOf_segments, ← utf8ByteSize_eq_byteLength] at inside
    rw [startOf]
    omega
  case tokenized =>
    simp only [tokenize, Scan.error?]
    cases (scan (startOf query)).fault? with
    | none => rfl
    | some fault => rfl

end FindQuery.Lexis
