import FindQuery.Proofs.Grammar.Reader

/-!
# Results that the first tokens settle

A reader settles what it does from left to right.  One that succeeds has looked at no more
than one token after those that it took, and one that fails at no more than two tokens after
the place that it blames.  On any other tokens that start with these it does the same.  A
sequence of two such readers is one again, because the second one looks from where the first
one has stopped.
-/

namespace FindQuery.Grammar

/-! ## Tokens with the same start -/

section

variable {tokens others : List Token}

theorem take_eq_of_le
    {count more : Nat} (fewer : count ≤ more) (same : others.take more = tokens.take more) :
    others.take count = tokens.take count := by
  have shorter := congrArg (List.take count) same
  rwa [List.take_take, List.take_take, Nat.min_eq_left fewer] at shorter

theorem take_drop_eq
    {used count : Nat} (same : others.take (used + count) = tokens.take (used + count)) :
    (others.drop used).take count = (tokens.drop used).take count := by
  rw [List.take_drop, List.take_drop, same]

/-- Tokens that start like tokens of some length have that length. -/
theorem le_length_of_take_eq
    {place count : Nat} (inside : place ≤ tokens.length) (fewer : place ≤ count)
    (same : others.take count = tokens.take count) :
    place ≤ others.length := by
  have lengths := congrArg List.length same
  rw [List.length_take, List.length_take] at lengths
  omega

/-- Tokens that start like a phrase and what follows it start with the phrase. -/
theorem exists_append_of_take_eq
    (phrase : List Token) {rest : List Token} {count : Nat} (enough : phrase.length ≤ count)
    (same : others.take count = (phrase ++ rest).take count) :
    ∃ later, others = phrase ++ later := by
  have start := take_eq_of_le enough same
  rw [List.take_left] at start
  refine ⟨others.drop phrase.length, ?_⟩
  conv => lhs; rw [← List.take_append_drop phrase.length others, start]

/-- Tokens that start like all of some tokens and end with them are these tokens. -/
theorem eq_of_take_eq
    {count : Nat} (enough : tokens.length < count) (same : others.take count = tokens.take count) :
    others = tokens := by
  have lengths := congrArg List.length same
  rw [List.length_take, List.length_take] at lengths
  rwa [List.take_of_length_le (by omega), List.take_of_length_le (by omega)] at same

theorem startsWith_eq_of_take_eq
    {count : Nat} (same : others.take (count + 1) = tokens.take (count + 1)) (kind : Kind) :
    startsWith kind others = startsWith kind tokens := by
  cases tokens with
  | nil => rw [eq_of_take_eq (Nat.succ_pos count) same]
  | cons token rest =>
      rcases exists_append_of_take_eq [token] (Nat.succ_pos count) same with ⟨later, rfl⟩
      rfl

theorem kindAt?_eq_of_take_eq
    {count place : Nat} (inside : place < count) (same : others.take count = tokens.take count) :
    kindAt? others place = kindAt? tokens place := by
  rw [kindAt?, kindAt?, ← List.getElem?_take_of_lt inside, same, List.getElem?_take_of_lt inside]

end

/-! ## Results that the first tokens settle -/

/--
A result that depends on the first tokens alone: on those taken and the next one when the
reader succeeds, on those up to the second one after the place of the fault when it fails.
-/
def IsDecided {Value : Type} (reader : TokenReader Value) (tokens : List Token) :
    EStateM.Result Fault (List Token) Value → Prop
  | .ok value rest =>
      ∃ used ≤ tokens.length, rest = tokens.drop used ∧
        ∀ others, others.take (used + 1) = tokens.take (used + 1) →
          reader others = .ok value (others.drop used)
  | .error fault _ =>
      ∃ place ≤ tokens.length, fault.rest = tokens.drop place ∧
        ∀ others, others.take (place + 3) = tokens.take (place + 3) →
          ∃ left, reader others = .error ⟨fault.cause, others.drop place⟩ left

/-- A reader all of whose results depend on the first tokens alone. -/
def Decides {Value : Type} (reader : TokenReader Value) : Prop :=
  ∀ tokens, IsDecided reader tokens (reader tokens)

section

variable {First Second : Type} {tokens : List Token}

/-- A result found some tokens on is decided where one more token leads to it. -/
theorem IsDecided.after
    {reader next : TokenReader First} {used : Nat} (bounded : used ≤ tokens.length)
    (onward : ∀ others, others.take (used + 1) = tokens.take (used + 1) →
      reader others = next (others.drop used))
    (decided : IsDecided next (tokens.drop used) (next (tokens.drop used))) :
    IsDecided reader tokens (reader tokens) := by
  rw [onward tokens rfl]
  cases read : next (tokens.drop used) with
  | ok value rest =>
      rw [read] at decided
      rcases decided with ⟨later, laterBounded, rfl, again⟩
      rw [List.length_drop] at laterBounded
      refine ⟨used + later, by omega, List.drop_drop, ?_⟩
      intro others same
      rw [onward others (take_eq_of_le (by omega) same)]
      rw [Nat.add_assoc] at same
      rw [again _ (take_drop_eq same), List.drop_drop]
  | error fault rest =>
      rw [read] at decided
      rcases decided with ⟨later, laterBounded, blamed, again⟩
      rw [List.length_drop] at laterBounded
      refine ⟨used + later, by omega, blamed.trans List.drop_drop, ?_⟩
      intro others same
      rw [onward others (take_eq_of_le (by omega) same)]
      rw [Nat.add_assoc] at same
      rcases again _ (take_drop_eq same) with ⟨left, failed⟩
      rw [List.drop_drop] at failed
      exact ⟨left, failed⟩

/-- In a sequence the second reader decides from where the first one has stopped. -/
theorem IsDecided.bind
    {reader : TokenReader First} {next : First → TokenReader Second}
    (decided : IsDecided reader tokens (reader tokens))
    (onward : ∀ value rest, reader tokens = .ok value rest →
      IsDecided (next value) rest (next value rest)) :
    IsDecided (reader >>= next) tokens ((reader >>= next) tokens) := by
  cases read : reader tokens with
  | ok value rest =>
      have later := onward value rest read
      rw [read] at decided
      rcases decided with ⟨used, bounded, rfl, again⟩
      apply later.after bounded
      intro others same
      exact bind_of_ok (again others same) next
  | error fault rest =>
      rw [read] at decided
      rcases decided with ⟨place, bounded, blamed, again⟩
      rw [bind_of_error read next]
      refine ⟨place, bounded, blamed, ?_⟩
      intro others same
      rcases again others same with ⟨left, failed⟩
      exact ⟨left, bind_of_error failed next⟩

theorem Decides.bind
    {reader : TokenReader First} {next : First → TokenReader Second}
    (decides : Decides reader) (onward : ∀ value, Decides (next value)) :
    Decides (reader >>= next) := by
  intro tokens
  apply (decides tokens).bind
  intro value rest read
  exact onward value rest

theorem decides_pure (value : First) : Decides (pure value) := by
  intro tokens
  exact ⟨0, Nat.zero_le _, rfl, fun others same => rfl⟩

/-- A phrase that is read whatever follows it decides its value. -/
theorem isDecided_of_taken
    {reader : TokenReader First} {value : First} (phrase : List Token)
    (taken : ∀ later, reader (phrase ++ later) = .ok value later) (rest : List Token) :
    IsDecided reader (phrase ++ rest) (reader (phrase ++ rest)) := by
  rw [taken]
  refine ⟨phrase.length, by simp, by simp, ?_⟩
  intro others same
  rcases exists_append_of_take_eq phrase (Nat.le_succ _) same with ⟨later, rfl⟩
  rw [taken, List.drop_left]

/--
A phrase that is refused at one of its places whatever follows it decides the fault, if it
has three tokens at most from that place on.
-/
theorem isDecided_of_refused
    {reader : TokenReader First} {cause : Cause} (phrase : List Token) {place : Nat}
    (inside : place ≤ phrase.length) (short : phrase.length ≤ place + 3)
    (refused : ∀ later, ∃ left,
      reader (phrase ++ later) = .error ⟨cause, (phrase ++ later).drop place⟩ left)
    (rest : List Token) :
    IsDecided reader (phrase ++ rest) (reader (phrase ++ rest)) := by
  rcases refused rest with ⟨left, failed⟩
  rw [failed]
  refine ⟨place, ?_, rfl, ?_⟩
  · rw [List.length_append]
    omega
  · intro others same
    rcases exists_append_of_take_eq phrase short same with ⟨later, rfl⟩
    exact refused later

/-- A fault at the end of the tokens is decided by all of them. -/
theorem isDecided_of_end
    {reader : TokenReader First} {cause : Cause} {left : List Token}
    (failed : reader tokens = .error ⟨cause, []⟩ left) :
    IsDecided reader tokens (reader tokens) := by
  rw [failed]
  refine ⟨tokens.length, Nat.le_refl _, List.drop_length.symm, ?_⟩
  intro others same
  rw [eq_of_take_eq (by omega) same, List.drop_length]
  exact ⟨left, failed⟩

theorem decides_failHere (cause : Cause) : Decides (failHere cause : TokenReader First) :=
  isDecided_of_refused [] (Nat.le_refl 0) (Nat.zero_le _) fun later => ⟨later, rfl⟩

theorem Decides.ite
    {condition : Prop} [Decidable condition] {reader other : TokenReader First}
    (positive : Decides reader) (negative : Decides other) :
    Decides (if condition then reader else other) := by
  split
  · exact positive
  · exact negative

end

theorem decides_eat (kind : Kind) : Decides (eat kind) := by
  intro tokens
  by_cases starts : startsWith kind tokens = true
  · cases tokens with
    | nil => cases starts
    | cons token rest =>
        apply isDecided_of_taken [token]
        intro later
        exact if_pos starts
  · rw [eat, if_neg starts]
    refine ⟨0, Nat.zero_le _, rfl, ?_⟩
    intro others same
    rw [eat, startsWith_eq_of_take_eq same, if_neg starts, List.drop_zero]

end FindQuery.Grammar
