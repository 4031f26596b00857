import FindQuery.Text.Bytes
import FindQuery.Text.Cluster

/-!
# Typed lines

A line may hold backspaces that were typed into it.  A backspace takes back the
last cluster that still stands, and does nothing where none is left.  What it
takes back is counted in bytes, and the count of a cluster is kept in one byte:
of a cluster of 256 bytes or more, only the remainder goes.
-/

namespace FindQuery.Text

/-- The character that takes back what was typed before it. -/
def backspace : Char := '\x08'

/-- A line while it is typed. -/
structure TypedLine where
  /-- The characters that stand, the last one first. -/
  standing : List Char
  /-- The numbers of bytes that the next backspaces take back, the nearest one first. -/
  sizes : List Nat
  deriving DecidableEq, Repr, Inhabited

namespace TypedLine

/-- The line before anything is typed. -/
def empty : TypedLine := ⟨[], []⟩

/-- The line after one more cluster. -/
def append (line : TypedLine) (cluster : List Char) : TypedLine :=
  ⟨cluster.reverse ++ line.standing, byteLength cluster % 256 :: line.sizes⟩

/-- The line after a backspace; a count that ends inside a character takes nothing back. -/
def erase (line : TypedLine) : TypedLine :=
  match line.sizes with
  | [] => line
  | size :: earlier =>
      match splitBytes? line.standing size with
      | some (_, kept) => ⟨kept, earlier⟩
      | none => ⟨line.standing, earlier⟩

/-- The line after one more cluster or backspace. -/
def type (line : TypedLine) (cluster : List Char) : TypedLine :=
  if cluster = [backspace] then line.erase else line.append cluster

/-- The text that stands on the line. -/
def text (line : TypedLine) : List Char := line.standing.reverse

@[simp]
theorem text_empty : empty.text = [] := rfl

@[simp]
theorem text_append (line : TypedLine) (cluster : List Char) :
    (line.append cluster).text = line.text ++ cluster := by
  simp [append, text]

/-- A backspace takes back the cluster that was typed last. -/
theorem erase_append
    (line : TypedLine) (cluster : List Char)
    (short : byteLength cluster < 256) :
    (line.append cluster).erase = line := by
  have size : byteLength cluster % 256 = byteLength cluster.reverse := by
    rw [Nat.mod_eq_of_lt short, byteLength_reverse]
  simp only [append, erase, size, splitBytes?_byteLength]

end TypedLine

/-- A text as it stands after the backspaces in it. -/
def applyBackspaces (text : List Char) : List Char :=
  ((clusters text).foldl TypedLine.type TypedLine.empty).text

/-- Clusters among which there is no backspace all stand. -/
theorem text_foldl_type
    (line : TypedLine) (found : List (List Char))
    (plain : backspace ∉ found.flatten) :
    (found.foldl TypedLine.type line).text = line.text ++ found.flatten := by
  induction found generalizing line with
  | nil => simp
  | cons cluster later hypothesis =>
      simp only [List.flatten_cons, List.mem_append, not_or] at plain
      have other : cluster ≠ [backspace] := by
        rintro rfl
        exact plain.1 (List.mem_singleton.2 rfl)
      simp [TypedLine.type, other, hypothesis _ plain.2]

/-- A text without backspaces stands as it is. -/
theorem applyBackspaces_of_not_mem
    {text : List Char}
    (plain : backspace ∉ text) :
    applyBackspaces text = text := by
  unfold applyBackspaces
  rw [text_foldl_type _ _ (by simpa using plain)]
  simp

end FindQuery.Text
