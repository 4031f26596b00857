import FindQuery.Text.Bytes

/-!
# The bytes of a text

A place of a text is a byte of its UTF-8 form.  An ASCII character is one byte, its code
point; all bytes of the other characters lie beyond ASCII, so a byte of ASCII is never part of
a longer character.
-/

namespace FindQuery.Text

/-- The bytes of a text in UTF-8. -/
def bytes (text : List Char) : List UInt8 :=
  text.flatMap String.utf8EncodeChar

@[simp]
theorem bytes_cons (first : Char) (rest : List Char) :
    bytes (first :: rest) = String.utf8EncodeChar first ++ bytes rest :=
  List.flatMap_cons

@[simp]
theorem bytes_append (left right : List Char) : bytes (left ++ right) = bytes left ++ bytes right :=
  List.flatMap_append

@[simp]
theorem length_bytes (text : List Char) : (bytes text).length = byteLength text := by
  induction text with
  | nil => rfl
  | cons first rest hypothesis =>
      rw [bytes_cons, List.length_append, String.length_utf8EncodeChar, hypothesis,
        byteLength_cons]

/-- The bytes of a piece of a text stand after those of what is before it. -/
theorem getElem?_bytes_append
    {before piece : List Char} {place : Nat} (low : byteLength before ≤ place)
    (high : place < byteLength before + byteLength piece) (after : List Char) :
    (bytes (before ++ (piece ++ after)))[place]? = (bytes piece)[place - byteLength before]? := by
  have inPiece : place - byteLength before < (bytes piece).length := by
    rw [length_bytes]
    omega
  rw [bytes_append, bytes_append, List.getElem?_append_right (by rwa [length_bytes]),
    length_bytes, List.getElem?_append_left inPiece]

/-- A mark in the high bits of a byte stays above the bits that it is added to. -/
theorem le_toNat_marked
    {bits mark : Nat} (high : 128 ≤ mark) (fits : bits + mark < 256) :
    128 ≤ (UInt8.ofNat (bits + mark)).toNat := by
  rw [UInt8.toNat_ofNat']
  omega

/-- A character is its code point in one byte, or it has no byte of ASCII. -/
theorem utf8EncodeChar_cases (character : Char) :
    (character.toNat < 128 ∧
        String.utf8EncodeChar character = [UInt8.ofNat character.toNat]) ∨
      (128 ≤ character.toNat ∧
        ∀ byte ∈ String.utf8EncodeChar character, 128 ≤ byte.toNat) := by
  show (character.val.toNat < 128 ∧ _) ∨ (128 ≤ character.val.toNat ∧ _)
  fun_cases String.utf8EncodeChar character with
  | case1 code ascii => exact .inl ⟨by omega, rfl⟩
  | case2 code more short =>
      refine .inr ⟨by omega, ?_⟩
      simp only [List.forall_mem_cons]
      refine ⟨le_toNat_marked ?_ ?_, le_toNat_marked ?_ ?_, by simp⟩ <;> omega
  | case3 code more longer short =>
      refine .inr ⟨by omega, ?_⟩
      simp only [List.forall_mem_cons]
      refine ⟨le_toNat_marked ?_ ?_, le_toNat_marked ?_ ?_, le_toNat_marked ?_ ?_,
        by simp⟩ <;> omega
  | case4 code more longer longest =>
      refine .inr ⟨by omega, ?_⟩
      simp only [List.forall_mem_cons]
      refine ⟨le_toNat_marked ?_ ?_, le_toNat_marked ?_ ?_, le_toNat_marked ?_ ?_,
        le_toNat_marked ?_ ?_, by simp⟩ <;> omega

/-- The byte of an ASCII character is among those of this character alone. -/
theorem mem_utf8EncodeChar_iff
    {character : Char} (ascii : character.toNat < 128) (other : Char) :
    UInt8.ofNat character.toNat ∈ String.utf8EncodeChar other ↔ character = other := by
  have value : (UInt8.ofNat character.toNat).toNat = character.toNat := by
    rw [UInt8.toNat_ofNat']
    omega
  rcases utf8EncodeChar_cases other with ⟨otherAscii, single⟩ | ⟨wide, beyond⟩
  · rw [single, List.mem_singleton, ← UInt8.toNat_inj, value, UInt8.toNat_ofNat',
      Nat.mod_eq_of_lt (by omega), Char.toNat_inj]
  · constructor
    · intro member
      have high := beyond _ member
      omega
    · rintro rfl
      omega

theorem mem_bytes_iff
    {character : Char} (ascii : character.toNat < 128) (text : List Char) :
    UInt8.ofNat character.toNat ∈ bytes text ↔ character ∈ text := by
  simp only [bytes, List.mem_flatMap, mem_utf8EncodeChar_iff ascii, exists_eq_right']

/-- An ASCII character of a text is its own byte. -/
theorem getElem?_bytes_of_ascii
    {character : Char} (ascii : character.toNat < 128) (before after : List Char) :
    (bytes (before ++ character :: after))[byteLength before]? =
      some (UInt8.ofNat character.toNat) := by
  rcases utf8EncodeChar_cases character with ⟨-, single⟩ | ⟨wide, -⟩
  · have inside : byteLength before < byteLength before + byteLength [character] := by
      have positive := character.utf8Size_pos
      rw [byteLength_cons]
      omega
    have here := getElem?_bytes_append (Nat.le_refl (byteLength before)) inside after
    rw [Nat.sub_self, bytes_cons, single] at here
    exact here
  · omega

end FindQuery.Text
