import FindQuery.Error
import FindQuery.Proofs.Lexis.Region
import FindQuery.Proofs.Text.Run
import FindQuery.Proofs.Text.Utf8
import Mathlib.Data.List.Basic

/-!
# Where the caret stands

An error is shown against a text that need not be the query it comes from, so its offset may lie
past the end of the text or inside one of its characters.  Such an offset stands for the end.
What is shown is the line around the place, told by the bytes of the text, and a caret below the
first character after the place.  Every piece of the text that this takes starts and ends
between two characters.
-/

namespace FindQuery

open FindQuery.Text

/-! ## Places between characters -/

/-- A byte offset that cuts no character of a text in two. -/
def IsBoundary (text : List Char) (place : Nat) : Prop :=
  ∃ before after, text = before ++ after ∧ byteLength before = place

theorem isBoundary_iff_isSome_splitBytes? (text : List Char) (place : Nat) :
    IsBoundary text place ↔ (splitBytes? text place).isSome = true := by
  constructor
  · rintro ⟨before, after, rfl, rfl⟩
    rw [splitBytes?_byteLength]
    rfl
  · intro split
    rcases Option.isSome_iff_exists.1 split with ⟨⟨before, after⟩, found⟩
    rcases eq_append_of_splitBytes? found with ⟨whole, size⟩
    exact ⟨before, after, whole.symm, size⟩

instance (text : List Char) (place : Nat) : Decidable (IsBoundary text place) :=
  decidable_of_iff _ (isBoundary_iff_isSome_splitBytes? text place).symm

/-- The place that an offset stands for: itself, or the end where it is no boundary. -/
def effectivePlace (text : List Char) (offset : Nat) : Nat :=
  if IsBoundary text offset then offset else byteLength text

/-- A text is cut at the place that an offset stands for. -/
theorem exists_split_effectivePlace (text : List Char) (offset : Nat) :
    ∃ before after,
      text = before ++ after ∧ effectivePlace text offset = byteLength before ∧
        (splitBytes? text offset).getD (text, []) = (before, after) := by
  rw [effectivePlace]
  cases found : splitBytes? text offset with
  | none =>
      have noBoundary : ¬ IsBoundary text offset := by
        rw [isBoundary_iff_isSome_splitBytes?, found]
        exact Bool.false_ne_true
      exact ⟨text, [], (List.append_nil text).symm, if_neg noBoundary, rfl⟩
  | some parts =>
      have boundary : IsBoundary text offset := by
        rw [isBoundary_iff_isSome_splitBytes?, found]
        rfl
      rcases eq_append_of_splitBytes? found with ⟨whole, size⟩
      exact ⟨parts.1, parts.2, whole.symm, (if_pos boundary).trans size.symm, rfl⟩

/-! ## Lines -/

/-- The bytes of the line around a place of a text, the line breaks at its ends left out. -/
structure IsLineAround (text : List Char) (place : Nat) (line : Span) : Prop where
  opens : line.start ≤ place
  closes : place ≤ line.stop
  inside : line.stop ≤ byteLength text
  /-- Just before the line is a line break, or the line starts the text. -/
  start : line.start = 0 ∨ ∃ last, line.start = last + 1 ∧ (bytes text)[last]? = some 10
  /-- Just after the line is a line break, or the line ends the text. -/
  stop : line.stop = byteLength text ∨ (bytes text)[line.stop]? = some 10
  unbroken : ∀ other, line.Covers other → (bytes text)[other]? ≠ some 10

/-- No line around a place starts before another one. -/
theorem IsLineAround.start_le
    {text : List Char} {place : Nat} {line other : Span}
    (around : IsLineAround text place line) (otherAround : IsLineAround text place other) :
    other.start ≤ line.start := by
  rcases otherAround.start with first | ⟨last, follows, lineBreak⟩
  · omega
  · by_contra later
    have before := otherAround.opens
    have after := around.closes
    exact around.unbroken last ⟨by omega, by omega⟩ lineBreak

/-- No line around a place ends after another one. -/
theorem IsLineAround.stop_le
    {text : List Char} {place : Nat} {line other : Span}
    (around : IsLineAround text place line) (otherAround : IsLineAround text place other) :
    line.stop ≤ other.stop := by
  rcases otherAround.stop with last | lineBreak
  · rw [last]
    exact around.inside
  · by_contra later
    have before := around.opens
    have after := otherAround.closes
    exact around.unbroken other.stop ⟨by omega, by omega⟩ lineBreak

/-- A place has one line around it. -/
theorem IsLineAround.unique
    {text : List Char} {place : Nat} {line other : Span}
    (around : IsLineAround text place line) (otherAround : IsLineAround text place other) :
    line = other := by
  have sameStart : line.start = other.start :=
    (otherAround.start_le around).antisymm (around.start_le otherAround)
  have sameStop : line.stop = other.stop :=
    (around.stop_le otherAround).antisymm (otherAround.stop_le around)
  cases line
  cases other
  cases sameStart
  cases sameStop
  rfl

/-- A piece of a text without a line break between two line breaks is a line of the text. -/
theorem isLineAround_of_append
    {earlier before after later : List Char}
    (opened : ∀ last ∈ earlier.getLast?, last = '\n')
    (closed : ∀ next ∈ later.head?, next = '\n')
    (unbroken : '\n' ∉ before ++ after) :
    IsLineAround (earlier ++ (before ++ after ++ later)) (byteLength (earlier ++ before))
      ⟨byteLength earlier, byteLength earlier + byteLength (before ++ after)⟩ where
  opens := by
    simp only [byteLength_append]
    omega
  closes := by
    simp only [byteLength_append]
    omega
  inside := by
    simp only [byteLength_append]
    omega
  start := by
    rcases List.eq_nil_or_concat' earlier with rfl | ⟨others, last, rfl⟩
    · exact .inl rfl
    · cases opened last (by simp)
      refine .inr ⟨byteLength others, byteLength_append _ _, ?_⟩
      rw [List.append_assoc]
      exact getElem?_bytes_of_ascii (by decide) others _
  stop := by
    cases later with
    | nil => simp
    | cons next others =>
        cases closed next (by simp)
        refine .inr ?_
        rw [← List.append_assoc, ← byteLength_append]
        exact getElem?_bytes_of_ascii (by decide) _ others
  unbroken := by
    rintro other ⟨low, high⟩ lineBreak
    rw [getElem?_bytes_append low high] at lineBreak
    have member : UInt8.ofNat ('\n').toNat ∈ bytes (before ++ after) :=
      List.mem_of_getElem? lineBreak
    exact unbroken ((mem_bytes_iff (by decide) _).1 member)

/-- The line of a text that a caret is shown under. -/
theorem exists_line_of_caretLine (text : List Char) (offset : Nat) :
    ∃ earlier later,
      text = earlier ++ ((CaretLine.ofOffset text offset).before ++
          (CaretLine.ofOffset text offset).after ++ later) ∧
        effectivePlace text offset =
            byteLength (earlier ++ (CaretLine.ofOffset text offset).before) ∧
          (∀ last ∈ earlier.getLast?, last = '\n') ∧
            (∀ next ∈ later.head?, next = '\n') ∧
              '\n' ∉ (CaretLine.ofOffset text offset).before ++
                (CaretLine.ofOffset text offset).after := by
  rcases exists_split_effectivePlace text offset with ⟨before, after, whole, place, parts⟩
  rcases exists_run (· != '\n') before.reverse with ⟨run, rest, cut, taken, inside, ends⟩
  rcases exists_run (· != '\n') after with
    ⟨following, later, otherCut, otherTaken, otherInside, otherEnds⟩
  have line : CaretLine.ofOffset text offset = ⟨run.reverse, following⟩ := by
    simp only [CaretLine.ofOffset, parts, taken, otherTaken]
  have opening : before = rest.reverse ++ run.reverse := by
    rw [← List.reverse_append, ← cut, List.reverse_reverse]
  rw [line]
  refine ⟨rest.reverse, later, ?_, ?_, ?_, ?_, ?_⟩
  · rw [whole, opening, otherCut]
    simp
  · rw [place, opening]
  · intro last atEnd
    rw [List.getLast?_reverse] at atEnd
    simpa using ends last atEnd
  · intro next atHead
    simpa using otherEnds next atHead
  · intro member
    rcases List.mem_append.1 member with inRun | inFollowing
    · exact absurd (inside _ (List.mem_reverse.1 inRun)) (by decide)
    · exact absurd (otherInside _ inFollowing) (by decide)

namespace QueryError

/-- The place of a text at which an error is shown. -/
def placeIn (error : QueryError) (query : String) : Nat :=
  effectivePlace query.toList error.location.offset

/--
An error is shown safely against any text, and at its place.  All slices that this takes start
and end between two characters, and what is shown is the message, the line around the place,
and a caret that as many spaces precede as the line has characters before the place.
-/
theorem render_points (error : QueryError) (query : String) :
    ∃ line passed unread before piece,
      IsLineAround query.toList (error.placeIn query) line ∧
        (∀ other, IsLineAround query.toList (error.placeIn query) other → other = line) ∧
          Span.slice? ⟨0, error.placeIn query⟩ query.toList = some passed ∧
            Span.slice? ⟨error.placeIn query, query.utf8ByteSize⟩ query.toList = some unread ∧
              Span.slice? ⟨line.start, error.placeIn query⟩ query.toList = some before ∧
                line.slice? query.toList = some piece ∧
                  error.render query =
                    "syntax error: " ++ error.message ++ "\n" ++ String.ofList piece ++ "\n" ++
                      String.ofList (List.replicate before.length ' ') ++ "^" := by
  rcases exists_line_of_caretLine query.toList error.location.offset with
    ⟨earlier, later, whole, place, opened, closed, unbroken⟩
  have rendered : error.render query = "syntax error: " ++ error.message ++ "\n" ++
      String.ofList (CaretLine.ofOffset query.toList error.location.offset).render :=
    rfl
  rw [placeIn, place, utf8ByteSize_eq_byteLength, rendered]
  generalize CaretLine.ofOffset query.toList error.location.offset = shown at *
  rcases shown with ⟨before, after⟩
  simp only at whole opened closed unbroken ⊢
  rw [whole]
  have around := isLineAround_of_append opened closed unbroken
  refine ⟨_, earlier ++ before, after ++ later, before, before ++ after, around,
    fun other otherAround => otherAround.unique around, ?_, ?_, ?_, ?_, ?_⟩
  · exact Span.slice?_eq_some [] (after ++ later) (by simp) rfl rfl
  · exact Span.slice?_eq_some (earlier ++ before) [] (by simp) rfl (by simp)
  · exact Span.slice?_eq_some earlier (after ++ later) (by simp) rfl rfl
  · exact Span.slice?_eq_some earlier later (by simp) rfl (by simp)
  · apply String.toList_injective
    simp [CaretLine.render]

/-- An offset inside a character of another text stands for the end of that text. -/
example :
    render ⟨.missingAnd, ⟨4, "3"⟩⟩ "a\nbé\nc" =
      "syntax error: missing AND in BETWEEN clause at '3'\nc\n ^" := by
  decide

end QueryError

end FindQuery
