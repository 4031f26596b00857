/-!
# Letters without regard to case

Reserved words are written in any case.  Two characters beyond ASCII count as
case forms of an ASCII letter as well: the long s `ſ` is a form of `S`, and the
Kelvin sign is a form of `K`.  The table of spellings, by contrast, folds ASCII
letters alone, so a reserved word written with one of the two is recognised as a
word but has no spelling.
-/

namespace FindQuery.Text

/-- The letter `ſ`, a lower-case form of `S`. -/
def longS : Char := '\u017f'

/-- The Kelvin sign, an upper-case form of `k`. -/
def kelvinSign : Char := '\u212a'

/-- The ASCII upper-case letter of which a character is a case form, else the character. -/
def foldCase (character : Char) : Char :=
  if character = longS then
    'S'
  else if character = kelvinSign then
    'K'
  else
    character.toUpper

/-- Whether a text starts with a word, given in upper case, in any case forms. -/
def startsWithFolded : (word text : List Char) → Bool
  | [], _ => true
  | _ :: _, [] => false
  | letter :: word, first :: rest =>
      foldCase first == letter && startsWithFolded word rest

/-- A word matches exactly the leading characters that fold to it. -/
theorem startsWithFolded_iff (word text : List Char) :
    startsWithFolded word text = true ↔
      (text.take word.length).map foldCase = word := by
  induction word generalizing text with
  | nil => simp [startsWithFolded]
  | cons letter word hypothesis =>
      cases text with
      | nil => simp [startsWithFolded]
      | cons first rest => simp [startsWithFolded, hypothesis]

/-- A text with its ASCII letters in upper case and all else unchanged. -/
def asciiUpper (text : List Char) : List Char :=
  text.map Char.toUpper

end FindQuery.Text
