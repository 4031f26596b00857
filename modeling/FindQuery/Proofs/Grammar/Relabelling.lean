import FindQuery.Proofs.Grammar.Statement
import FindQuery.Proofs.Lexis.Respelling

/-!
# Readers do not look at places

A relabelling changes tokens but neither their kind nor their tag nor their text; it
may change where they stand.  Every reader does on relabelled tokens what it does on
the tokens themselves and leaves the relabelled rest, so what a statement means and
what is wrong with it do not depend on the places of its tokens.
-/

namespace FindQuery.Grammar

open FindQuery.Number
open FindQuery.Time

/-- A change of tokens that keeps what they say. -/
def IsRelabelling (relabel : Token → Token) : Prop :=
  ∀ token, (relabel token).contents = token.contents

/-- A result with the tokens that it speaks of relabelled and its value changed. -/
def relabelResult {First Second : Type}
    (relabel : Token → Token) (change : First → Second) :
    EStateM.Result Fault (List Token) First → EStateM.Result Fault (List Token) Second
  | .ok value rest => .ok (change value) (rest.map relabel)
  | .error fault rest => .error ⟨fault.cause, fault.rest.map relabel⟩ (rest.map relabel)

/-- One reader does on relabelled tokens what another does on the tokens themselves. -/
def Mirrors {First Second : Type}
    (relabel : Token → Token) (change : First → Second)
    (reader : TokenReader First) (image : TokenReader Second) : Prop :=
  ∀ tokens, image (tokens.map relabel) = relabelResult relabel change (reader tokens)

section

variable {relabel : Token → Token}

theorem IsRelabelling.kind (keeps : IsRelabelling relabel) (token : Token) :
    (relabel token).kind = token.kind :=
  congrArg Prod.fst (keeps token)

theorem IsRelabelling.tag (keeps : IsRelabelling relabel) (token : Token) :
    (relabel token).tag = token.tag :=
  congrArg (fun contents => contents.2.1) (keeps token)

theorem IsRelabelling.text (keeps : IsRelabelling relabel) (token : Token) :
    (relabel token).text = token.text :=
  congrArg (fun contents => contents.2.2) (keeps token)

/-! ## Combining readers -/

variable {First Second Image Result : Type}

theorem Mirrors.pure (value : First) (change : First → Second) :
    Mirrors relabel change (Pure.pure value) (Pure.pure (change value)) := by
  intro tokens
  rfl

theorem Mirrors.failHere (cause : Cause) (change : First → Second) :
    Mirrors relabel change (Grammar.failHere cause) (Grammar.failHere cause) := by
  intro tokens
  rfl

/-- Readers in sequence are mirrored by readers in sequence. -/
theorem Mirrors.bind
    {reader : TokenReader First} {image : TokenReader Image}
    {next : First → TokenReader Second} {imageNext : Image → TokenReader Result}
    {change : First → Image} {changeNext : Second → Result}
    (mirrored : Mirrors relabel change reader image)
    (onward : ∀ value, Mirrors relabel changeNext (next value) (imageNext (change value))) :
    Mirrors relabel changeNext (reader >>= next) (image >>= imageNext) := by
  intro tokens
  change EStateM.bind image imageNext (tokens.map relabel) =
    relabelResult relabel changeNext (EStateM.bind reader next tokens)
  simp only [EStateM.bind, mirrored tokens]
  cases reader tokens with
  | ok value rest => exact onward value rest
  | error fault rest => rfl

theorem Mirrors.ite
    {condition : Prop} [Decidable condition]
    {reader other : TokenReader First} {image otherImage : TokenReader Second}
    {change : First → Second}
    (positive : Mirrors relabel change reader image)
    (negative : Mirrors relabel change other otherImage) :
    Mirrors relabel change (if condition then reader else other)
      (if condition then image else otherImage) := by
  split
  · exact positive
  · exact negative

end

section

variable {relabel : Token → Token} (keeps : IsRelabelling relabel)

include keeps

theorem startsWith_map (kind : Kind) (tokens : List Token) :
    startsWith kind (tokens.map relabel) = startsWith kind tokens := by
  cases tokens with
  | nil => rfl
  | cons token rest => simp [startsWith, keeps.kind]

theorem kindAt?_map (tokens : List Token) (ahead : Nat) :
    kindAt? (tokens.map relabel) ahead = kindAt? tokens ahead := by
  cases found : tokens[ahead]? with
  | none => simp [kindAt?, found]
  | some token => simp [kindAt?, found, keeps.kind]

theorem unitAt?_map (tokens : List Token) (ahead : Nat) :
    unitAt? (tokens.map relabel) ahead = unitAt? tokens ahead := by
  rw [unitAt?, unitAt?, kindAt?_map keeps]

theorem mirrors_eat (kind : Kind) : Mirrors relabel id (eat kind) (eat kind) := by
  intro tokens
  rw [eat, startsWith_map keeps, eat]
  split
  · rw [← List.map_tail]
    rfl
  · rfl

/-! ## Conditions -/

theorem ofToken?_relabel (token : Token) :
    Value.ofToken? (relabel token) = Value.ofToken? token := by
  rw [Value.ofToken?, Value.ofToken?, keeps.tag, keeps.text]

theorem mirrors_readValue : Mirrors relabel id readValue readValue := by
  intro tokens
  cases tokens with
  | nil => rfl
  | cons token rest =>
      simp only [List.map_cons, readValue, ofToken?_relabel keeps, keeps.kind]
      cases Value.ofToken? token with
      | some value => rfl
      | none =>
          by_cases signed : token.kind = .minus ∨ token.kind = .plus
          · rw [if_pos signed, if_pos signed]
            cases rest with
            | nil => rfl
            | cons number after =>
                simp only [List.map_cons, keeps.tag, keeps.text]
                by_cases numeric : number.tag.isNumeric = true
                · rw [if_pos numeric, if_pos numeric]
                  rfl
                · rw [if_neg numeric, if_neg numeric]
                  rfl
          · rw [if_neg signed, if_neg signed]
            rfl

theorem mirrors_readComparison : Mirrors relabel id readComparison readComparison := by
  intro tokens
  cases tokens with
  | nil => rfl
  | cons token rest =>
      simp only [List.map_cons, readComparison, keeps.kind]
      cases (Comparison.ofKind? token.kind).filter Comparison.isResolved with
      | none => rfl
      | some comparison => rfl

theorem mirrors_readPredicate : Mirrors relabel id readPredicate readPredicate := by
  apply Mirrors.bind (mirrors_readValue keeps)
  intro left
  apply Mirrors.bind (mirrors_readComparison keeps)
  intro comparison
  apply Mirrors.bind (mirrors_readValue keeps)
  intro right
  exact Mirrors.pure _ id

theorem readFurther_map (condition : Condition) (tokens : List Token) :
    readFurther condition (tokens.map relabel) =
      relabelResult relabel id (readFurther condition tokens) := by
  induction condition, tokens using readFurther.induct with
  | case1 condition => simp [readFurther, relabelResult]
  | case2 condition token rest noConnective =>
      rw [List.map_cons, readFurther, readFurther]
      simp only [keeps.kind, noConnective]
      rfl
  | case3 condition token rest connective found fault after failed =>
      have mirrored := mirrors_readPredicate keeps rest
      rw [failed] at mirrored
      have joins : Connective.ofKind? (relabel token).kind = some connective := by
        rw [keeps.kind, found]
      rw [List.map_cons, readFurther_cons_of_error joins mirrored,
        readFurther_cons_of_error found failed]
      rfl
  | case4 condition token rest connective found predicate after read hypothesis =>
      have mirrored := mirrors_readPredicate keeps rest
      rw [read] at mirrored
      have joins : Connective.ofKind? (relabel token).kind = some connective := by
        rw [keeps.kind, found]
      rw [List.map_cons, readFurther_cons joins mirrored, readFurther_cons found read]
      exact hypothesis

theorem mirrors_readCondition : Mirrors relabel id readCondition readCondition := by
  apply Mirrors.bind (mirrors_readPredicate keeps)
  intro first
  exact readFurther_map keeps _

/-! ## References and ranges of time -/

omit keeps in
theorem mirrors_taking (count : Nat) (reference : Reference) :
    Mirrors relabel id (taking count reference) (taking count reference) := by
  intro tokens
  rw [taking, taking, ← List.map_drop]
  rfl

theorem mirrors_readDay : Mirrors relabel id readDay readDay := by
  intro tokens
  rw [readDay, readDay, kindAt?_map keeps, kindAt?_map keeps]
  split
  · split
    · exact mirrors_taking 3 _ tokens
    · exact mirrors_taking 3 _ tokens
    · rfl
  · rfl
  · rfl

theorem mirrors_readLast : Mirrors relabel id readLast readLast := by
  intro tokens
  rw [readLast, readLast, unitAt?_map keeps]
  split
  · exact mirrors_taking 2 _ tokens
  · rfl

theorem mirrors_readUnit (unit : TimeUnit) :
    Mirrors relabel id (readUnit unit) (readUnit unit) := by
  intro tokens
  rw [readUnit, readUnit, kindAt?_map keeps, kindAt?_map keeps]
  split
  · exact mirrors_taking 3 _ tokens
  · split
    · rfl
    · rfl

theorem mirrors_readCount (text : String) :
    Mirrors relabel id (readCount text) (readCount text) := by
  intro tokens
  rw [readCount, readCount, unitAt?_map keeps, kindAt?_map keeps]
  split
  · rfl
  · split
    · rfl
    · split
      · exact mirrors_taking 3 _ tokens
      · rw [← List.map_drop]
        rfl

theorem mirrors_readLiteral (token : Token) :
    Mirrors relabel id (readLiteral token) (readLiteral (relabel token)) := by
  rw [readLiteral, readLiteral, keeps.tag, keeps.text]
  split
  · exact mirrors_readCount keeps _
  · exact Mirrors.failHere _ id
  · exact mirrors_taking 1 _
  · exact Mirrors.failHere _ id

theorem mirrors_readReference : Mirrors relabel id readReference readReference := by
  intro tokens
  cases tokens with
  | nil => rfl
  | cons token rest =>
      rw [List.map_cons, readReference, readReference, ← List.map_cons]
      simp only [keeps.kind]
      split
      · exact mirrors_taking 1 _ _
      · exact mirrors_taking 1 _ _
      · exact mirrors_readDay keeps _
      · exact mirrors_readLast keeps _
      · exact mirrors_readLast keeps _
      · exact mirrors_readLiteral keeps token _
      · split
        · exact mirrors_readUnit keeps _ _
        · rfl

theorem mirrors_readBound (now : Instant) (bound : Bound) :
    Mirrors relabel id (readBound now bound) (readBound now bound) := by
  intro tokens
  rw [readBound, readBound, mirrors_readReference keeps tokens]
  cases readReference tokens with
  | error fault rest => rfl
  | ok reference rest =>
      simp only [relabelResult, id_eq]
      split
      · rfl
      · rfl

omit keeps in
theorem mirrors_readNow (now : Instant) :
    Mirrors relabel id (readNow now) (readNow now) := by
  rw [readNow]
  split
  · exact Mirrors.pure _ id
  · exact Mirrors.failHere _ id

theorem mirrors_readSince (now : Instant) :
    Mirrors relabel id (readSince now) (readSince now) := by
  apply Mirrors.bind (mirrors_readBound keeps now .opening)
  intro opening
  apply Mirrors.bind (mirrors_readNow now)
  intro present
  exact Mirrors.pure _ id

theorem mirrors_readBetween (now : Instant) :
    Mirrors relabel id (readBetween now) (readBetween now) := by
  apply Mirrors.bind (mirrors_readBound keeps now .opening)
  intro opening
  apply Mirrors.bind (mirrors_eat keeps .and)
  intro joined
  apply Mirrors.ite
  · apply Mirrors.bind (mirrors_readBound keeps now .closing)
    intro closing
    exact Mirrors.pure _ id
  · exact Mirrors.failHere _ id

theorem mirrors_readRange (now : Instant) :
    Mirrors relabel id (readRange now) (readRange now) := by
  apply Mirrors.bind (mirrors_eat keeps .since)
  intro since
  apply Mirrors.ite
  · exact mirrors_readSince keeps now
  · apply Mirrors.bind (mirrors_eat keeps .between)
    intro between
    apply Mirrors.ite
    · exact mirrors_readBetween keeps now
    · exact Mirrors.failHere _ id

/-! ## Statements -/

theorem startsWithName_map (tokens : List Token) :
    startsWithName (tokens.map relabel) = startsWithName tokens := by
  cases tokens with
  | nil => rfl
  | cons token rest => simp [startsWithName, keeps.tag]

theorem mirrors_readField : Mirrors relabel id readField readField := by
  intro tokens
  cases tokens with
  | nil => rfl
  | cons name rest =>
      have sameStart : startsField (relabel name) = startsField name := by
        rw [startsField, startsField, keeps.tag, keeps.kind]
      simp only [List.map_cons, readField, sameStart, keeps.text, startsWith_map keeps,
        ← List.map_tail]
      by_cases starts : startsField name = true
      · rw [if_pos starts, if_pos starts]
        by_cases renames : startsWith .rename rest = true
        · rw [if_pos renames, if_pos renames]
          cases rest.tail with
          | nil => rfl
          | cons label after =>
              simp only [List.map_cons, keeps.tag, keeps.text]
              by_cases named : label.tag.isName = true
              · rw [if_pos named, if_pos named]
                rfl
              · rw [if_neg named, if_neg named]
                rfl
        · rw [if_neg renames, if_neg renames]
          rfl
      · rw [if_neg starts, if_neg starts]
        rfl

theorem readFields_map (tokens : List Token) :
    readFields (tokens.map relabel) = relabelResult relabel id (readFields tokens) := by
  induction tokens using readFields.induct with
  | case1 tokens fault after failed =>
      have mirrored := mirrors_readField keeps tokens
      rw [failed] at mirrored
      rw [readFields_eq, mirrored, readFields_eq, failed]
      rfl
  | case2 tokens field after read hasComma hasName fault later failed hypothesis =>
      have mirrored := mirrors_readField keeps tokens
      rw [read] at mirrored
      rw [readFields_eq, mirrored, readFields_eq, read]
      simp only [relabelResult, startsWith_map keeps, startsWithName_map keeps, ← List.map_tail,
        hasComma, hasName, if_true, hypothesis, failed]
  | case3 tokens field after read hasComma hasName fields later readLater hypothesis =>
      have mirrored := mirrors_readField keeps tokens
      rw [read] at mirrored
      rw [readFields_eq, mirrored, readFields_eq, read]
      simp only [relabelResult, startsWith_map keeps, startsWithName_map keeps, ← List.map_tail,
        hasComma, hasName, if_true, hypothesis, readLater, id_eq]
  | case4 tokens field after read hasComma noName =>
      have mirrored := mirrors_readField keeps tokens
      rw [read] at mirrored
      rw [readFields_eq, mirrored, readFields_eq, read]
      simp [relabelResult, startsWith_map keeps, startsWithName_map keeps, ← List.map_tail,
        hasComma, noName]
  | case5 tokens field after read noComma =>
      have mirrored := mirrors_readField keeps tokens
      rw [read] at mirrored
      rw [readFields_eq, mirrored, readFields_eq, read]
      simp [relabelResult, startsWith_map keeps, noComma]

theorem mirrors_readSelection : Mirrors relabel id readSelection readSelection := by
  intro tokens
  rw [readSelection, readSelection, startsWith_map keeps, startsWith_map keeps,
    startsWithName_map keeps, readFields_map keeps, ← List.map_tail]
  split
  · rfl
  · split
    · rfl
    · split
      · cases readFields tokens with
        | error fault rest => rfl
        | ok fields rest => rfl
      · rfl

theorem mirrors_readMatching : Mirrors relabel id readMatching readMatching := by
  apply Mirrors.bind (mirrors_eat keeps .matching)
  intro present
  apply Mirrors.ite
  · apply Mirrors.bind (mirrors_readCondition keeps)
    intro condition
    exact Mirrors.pure _ id
  · exact Mirrors.pure _ id

omit keeps in
theorem mirrors_readEnd : Mirrors relabel id readEnd readEnd := by
  intro tokens
  cases tokens with
  | nil => rfl
  | cons token rest => rfl

/-- A query with the tokens that it hands on relabelled. -/
def relabelRemainder (relabel : Token → Token) (query : Query) : Query :=
  { query with remainder := query.remainder.map relabel }

/-- A relabelled statement is read as the statement is. -/
theorem mirrors_readStatement (now : Instant) (remainder : List Token) :
    Mirrors relabel (relabelRemainder relabel) (readStatement now remainder)
      (readStatement now (remainder.map relabel)) := by
  apply Mirrors.bind (mirrors_eat keeps .find)
  intro found
  apply Mirrors.ite
  · apply Mirrors.bind (mirrors_readSelection keeps)
    intro selection
    apply Mirrors.bind (mirrors_readMatching keeps)
    intro condition
    apply Mirrors.bind (mirrors_readRange keeps now)
    intro range
    apply Mirrors.bind mirrors_readEnd
    intro nothing
    exact Mirrors.pure _ (relabelRemainder relabel)
  · exact Mirrors.failHere _ (relabelRemainder relabel)

end

/-! ## Tokens at no place -/

/-- A token at no place in particular. -/
def unplaced (token : Token) : Token :=
  { token with span := ⟨0, 0⟩ }

theorem isRelabelling_unplaced : IsRelabelling unplaced := by
  intro token
  rfl

theorem unplaced_eq_iff (token copy : Token) :
    unplaced token = unplaced copy ↔ token.contents = copy.contents := by
  simp [unplaced, Token.contents]

/-- Tokens of the same contents are the same tokens once they are taken from their places. -/
theorem map_unplaced_eq_iff (tokens copies : List Token) :
    tokens.map unplaced = copies.map unplaced ↔
      tokens.map Token.contents = copies.map Token.contents := by
  induction tokens generalizing copies with
  | nil => cases copies <;> simp
  | cons token later hypothesis =>
      cases copies with
      | nil => simp
      | cons copy others => simp [hypothesis, unplaced_eq_iff]

/-- A reader that does not look at places reads the same from tokens of the same contents. -/
theorem Mirrors.exists_read
    {Value : Type} {reader : TokenReader Value} (mirrors : Mirrors unplaced id reader reader)
    {tokens copies rest : List Token} {value : Value}
    (same : copies.map Token.contents = tokens.map Token.contents)
    (read : reader tokens = .ok value rest) :
    ∃ left, reader copies = .ok value left ∧
      left.map Token.contents = rest.map Token.contents := by
  have image := mirrors copies
  rw [(map_unplaced_eq_iff copies tokens).2 same, mirrors tokens, read] at image
  cases again : reader copies with
  | ok other left =>
      rw [again] at image
      simp only [relabelResult, id_eq, EStateM.Result.ok.injEq] at image
      rcases image with ⟨rfl, places⟩
      exact ⟨left, rfl, ((map_unplaced_eq_iff rest left).1 places).symm⟩
  | error fault left =>
      rw [again] at image
      cases image

end FindQuery.Grammar
