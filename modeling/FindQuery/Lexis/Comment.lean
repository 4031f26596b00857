import FindQuery.Lexis.Pattern
import FindQuery.Text.Bytes

/-!
# Comments and quoted regions

Before a query is read as tokens it is cut into segments.  From left to right a
segment is a quoted text, a comment, or a single character that starts neither.
A line comment runs from `//` to the end of the line, a block comment from `/*`
to the nearest `*/` after it; an opening quote or `/*` that is never closed is a
plain character.  `normalize` keeps quoted texts, replaces every comment by
spaces and every tab and line break by one space, so byte offsets stay as they
were.
-/

namespace FindQuery.Lexis

open FindQuery.Text

/-- A piece of a query as the comment pass sees it. -/
inductive Segment where
  | plain (character : Char)
  | quoted (characters : List Char)
  | comment (characters : List Char)
  deriving DecidableEq, Repr

/-- The characters up to and including the nearest `*/`, if there is one. -/
def blockEnd? : List Char → Option Nat
  | '*' :: '/' :: _ => some 2
  | _ :: rest => (blockEnd? rest).map (· + 1)
  | [] => none

/-- The length of the comment at the start of a text. -/
def commentLength? : List Char → Option Nat
  | '/' :: '/' :: rest => some ((rest.takeWhile (· != '\n')).length + 2)
  | '/' :: '*' :: rest => (blockEnd? rest).map (· + 2)
  | _ => none

/-- The segment at the start of a text that begins with a given character. -/
def leadingSegment (first : Char) (rest : List Char) : Segment :=
  match quotedLength? (first :: rest) with
  | some length => .quoted ((first :: rest).take length)
  | none =>
      match commentLength? (first :: rest) with
      | some length => .comment ((first :: rest).take length)
      | none => .plain first

namespace Segment

/-- The characters of the query that a segment covers. -/
def source : Segment → List Char
  | plain character => [character]
  | quoted characters => characters
  | comment characters => characters

/-- A tab or a line break counts as a space. -/
def straighten (character : Char) : Char :=
  if character = '\t' ∨ character = '\r' ∨ character = '\n' then ' ' else character

/-- What the lexer sees of a segment. -/
def visible : Segment → List Char
  | plain character => [straighten character]
  | quoted characters => characters.map straighten
  | comment characters => List.replicate (byteLength characters) ' '

end Segment

theorem length_source_leadingSegment_pos (first : Char) (rest : List Char) :
    0 < (leadingSegment first rest).source.length := by
  unfold leadingSegment
  split
  · rename_i length quotedHere
    unfold quotedLength? at quotedHere
    split at quotedHere
    · simp_all
    · split at quotedHere
      · simp only [Option.some.injEq] at quotedHere
        simp only [Segment.source, List.length_take, List.length_cons]
        omega
      · cases quotedHere
  · split
    · rename_i length commentHere
      simp only [Segment.source, List.length_take, List.length_cons]
      unfold commentLength? at commentHere
      split at commentHere
      · simp only [Option.some.injEq] at commentHere
        omega
      · obtain ⟨inner, -, equal⟩ := Option.map_eq_some_iff.1 commentHere
        omega
      · cases commentHere
    · simp [Segment.source]

/-- A query as a sequence of segments. -/
def segments (text : List Char) : List Segment :=
  match text with
  | [] => []
  | first :: rest =>
      let segment := leadingSegment first rest
      segment :: segments ((first :: rest).drop segment.source.length)
termination_by text.length
decreasing_by
  have positive := length_source_leadingSegment_pos first rest
  simp only [List.length_drop, List.length_cons]
  omega

/-- A query with comments, tabs and line breaks replaced by as many bytes of spaces. -/
def normalize (text : List Char) : List Char :=
  (segments text).flatMap Segment.visible

end FindQuery.Lexis
