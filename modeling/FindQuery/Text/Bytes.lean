/-!
# Byte offsets into a text

Positions in a query are byte offsets into its UTF-8 form.  This module measures
a run of characters in bytes and splits a text at a byte offset; an offset past
the end or inside a character splits nothing.
-/

namespace FindQuery.Text

/-- The number of bytes of a text in UTF-8. -/
def byteLength : List Char → Nat
  | [] => 0
  | first :: rest => first.utf8Size + byteLength rest

@[simp]
theorem byteLength_nil : byteLength [] = 0 := rfl

@[simp]
theorem byteLength_cons (first : Char) (rest : List Char) :
    byteLength (first :: rest) = first.utf8Size + byteLength rest := rfl

@[simp]
theorem byteLength_append (left right : List Char) :
    byteLength (left ++ right) = byteLength left + byteLength right := by
  induction left with
  | nil => simp
  | cons first rest hypothesis => simp [hypothesis, Nat.add_assoc]

@[simp]
theorem byteLength_reverse (text : List Char) :
    byteLength text.reverse = byteLength text := by
  induction text with
  | nil => rfl
  | cons first rest hypothesis => simp [hypothesis, Nat.add_comm]

/-- The bytes of a string are those of its characters. -/
theorem utf8ByteSize_ofList (text : List Char) :
    (String.ofList text).utf8ByteSize = byteLength text := by
  induction text with
  | nil => rfl
  | cons first rest hypothesis =>
      rw [byteLength_cons, ← hypothesis, ← List.singleton_append, String.ofList_append,
        String.utf8ByteSize_append]
      congr
      rw [← String.size_toByteArray, String.toByteArray_ofList, List.utf8Encode_singleton,
        List.size_toByteArray, String.length_utf8EncodeChar]

theorem utf8ByteSize_eq_byteLength (query : String) :
    query.utf8ByteSize = byteLength query.toList := by
  rw [← utf8ByteSize_ofList, String.ofList_toList]

/--
The characters before a byte offset and those from it on, `none` when the offset
is not the boundary of a character of the text.
-/
def splitBytes? : List Char → Nat → Option (List Char × List Char)
  | text, 0 => some ([], text)
  | [], _ + 1 => none
  | first :: rest, offset + 1 =>
      if first.utf8Size ≤ offset + 1 then
        (splitBytes? rest (offset + 1 - first.utf8Size)).map
          fun parts => (first :: parts.1, parts.2)
      else
        none

/-- The two parts make up the text, and the first is as long as the offset says. -/
theorem eq_append_of_splitBytes?
    {text before after : List Char} {offset : Nat}
    (split : splitBytes? text offset = some (before, after)) :
    before ++ after = text ∧ byteLength before = offset := by
  induction text generalizing offset before after with
  | nil =>
      cases offset with
      | zero => simp_all [splitBytes?]
      | succ _ => simp [splitBytes?] at split
  | cons first rest hypothesis =>
      cases offset with
      | zero => simp_all [splitBytes?]
      | succ offset =>
          unfold splitBytes? at split
          split at split
          · rename_i fits
            obtain ⟨parts, inner, equal⟩ := Option.map_eq_some_iff.1 split
            obtain ⟨whole, size⟩ := hypothesis inner
            cases equal
            refine ⟨by simp [whole], ?_⟩
            simp only [byteLength_cons, size]
            omega
          · cases split

/-- A text splits at the end of each of its leading parts. -/
@[simp]
theorem splitBytes?_byteLength (before after : List Char) :
    splitBytes? (before ++ after) (byteLength before) = some (before, after) := by
  induction before with
  | nil => cases after <;> rfl
  | cons first rest hypothesis =>
      have positive := first.utf8Size_pos
      obtain ⟨size, equal⟩ : ∃ size, first.utf8Size + byteLength rest = size + 1 :=
        ⟨first.utf8Size + byteLength rest - 1, by omega⟩
      have remaining : size + 1 - first.utf8Size = byteLength rest := by omega
      simp only [List.cons_append, byteLength_cons, equal, splitBytes?, remaining,
        hypothesis, Option.map_some]
      rw [if_pos (by omega)]

end FindQuery.Text
