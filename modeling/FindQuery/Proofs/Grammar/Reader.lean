import FindQuery.Proofs.Grammar.Language

/-!
# Runs of readers

A reader built from two readers succeeds exactly when the first one succeeds and
the second one does so on what the first has left.  The module also says what a
coherent token that is a literal, a name or a word of the language looks like.
-/

namespace FindQuery.Grammar

section Sequencing

variable {First Second : Type}

/-- Two readers in sequence succeed when both do, the second on what the first left. -/
theorem bind_eq_ok_iff
    (reader : TokenReader First) (next : First → TokenReader Second)
    (tokens rest : List Token) (value : Second) :
    (reader >>= next) tokens = .ok value rest ↔
      ∃ first middle,
        reader tokens = .ok first middle ∧ next first middle = .ok value rest := by
  constructor
  · intro run
    change EStateM.bind reader next tokens = .ok value rest at run
    rw [EStateM.bind] at run
    split at run
    · rename_i first middle firstRun
      exact ⟨first, middle, firstRun, run⟩
    · cases run
  · rintro ⟨first, middle, firstRun, secondRun⟩
    change EStateM.bind reader next tokens = .ok value rest
    simp only [EStateM.bind, firstRun, secondRun]

theorem bind_of_ok
    {reader : TokenReader First} {tokens rest : List Token} {value : First}
    (read : reader tokens = .ok value rest) (next : First → TokenReader Second) :
    (reader >>= next) tokens = next value rest := by
  change EStateM.bind reader next tokens = next value rest
  rw [EStateM.bind, read]

theorem bind_of_error
    {reader : TokenReader First} {tokens rest : List Token} {fault : Fault}
    (failed : reader tokens = .error fault rest) (next : First → TokenReader Second) :
    (reader >>= next) tokens = .error fault rest := by
  change EStateM.bind reader next tokens = .error fault rest
  rw [EStateM.bind, failed]

/-- A reader that takes nothing returns its value and leaves the tokens as they are. -/
@[simp]
theorem pure_eq_ok_iff
    (value result : First) (tokens rest : List Token) :
    (pure value : TokenReader First) tokens = .ok result rest ↔
      value = result ∧ tokens = rest := by
  change EStateM.Result.ok value tokens = .ok result rest ↔ _
  simp

@[simp]
theorem failHere_ne_ok
    (cause : Cause) (tokens rest : List Token) (value : First) :
    (failHere cause : TokenReader First) tokens ≠ .ok value rest := by
  intro run
  cases run

end Sequencing

/-- Eating a token of some kind takes the first token if it is of that kind. -/
theorem eat_eq_ok_true_iff
    (kind : Kind) (tokens rest : List Token) :
    eat kind tokens = .ok true rest ↔
      ∃ token, token.kind = kind ∧ tokens = token :: rest := by
  constructor
  · intro run
    cases tokens with
    | nil => simp [eat, startsWith] at run
    | cons token later =>
        by_cases same : token.kind = kind
        · have left : later = rest := by
            simpa [eat, startsWith, same] using run
          subst rest
          exact ⟨token, same, rfl⟩
        · simp [eat, startsWith, same] at run
  · rintro ⟨token, same, rfl⟩
    simp [eat, startsWith, same]

/-- Eating takes nothing when the first token is of another kind. -/
theorem eat_eq_ok_false_iff
    (kind : Kind) (tokens rest : List Token) :
    eat kind tokens = .ok false rest ↔
      startsWith kind tokens = false ∧ tokens = rest := by
  by_cases same : startsWith kind tokens = true
  · simp [eat, same]
  · simp [eat, same]

/-! ## Coherent tokens -/

theorem IsCoherent.isLiteral_eq_false
    {token : Token} (coherent : IsCoherent token)
    (word : token.kind ≠ .literal) :
    token.tag.isLiteral = false := by
  have notLiteral := mt coherent.2 word
  simpa using notLiteral

theorem IsCoherent.kind_of_isName
    {token : Token} (coherent : IsCoherent token)
    (named : token.tag.isName = true) :
    token.kind = .literal := by
  apply coherent.2
  revert named
  cases token.tag <;> simp [Tag.isName, Tag.isLiteral]

/-- Only literals stand for values. -/
theorem ofTag?_eq_none_iff (tag : Tag) :
    ValueKind.ofTag? tag = none ↔ tag.isLiteral = false := by
  cases tag <;> simp [ValueKind.ofTag?, Tag.isLiteral]

end FindQuery.Grammar
