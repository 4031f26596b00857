import FindQuery.Text.CodeRange

/-!
# Blank characters

The blanks of a text are the characters with the property White_Space: the ASCII
blanks, next line, no-break space, the typographic spaces and the two
separators.  They part tokens, and they are cut from both ends of a timestamp
and of a line typed at the prompt.
-/

namespace FindQuery.Text

/-- The ranges of the property White_Space. -/
def blankRanges : List CodeRange :=
  [
    (0x9, 0xD), (0x20, 0x20), (0x85, 0x85), (0xA0, 0xA0),
    (0x1680, 0x1680), (0x2000, 0x200A), (0x2028, 0x2029), (0x202F, 0x202F),
    (0x205F, 0x205F), (0x3000, 0x3000)
  ]

/-- Whether a character is a blank. -/
def isBlank (character : Char) : Bool :=
  inRanges blankRanges character.toNat

/-- A text without the blanks at its start. -/
def trimStart (text : List Char) : List Char :=
  text.dropWhile isBlank

/-- A text without the blanks at its start and at its end. -/
def trim (text : List Char) : List Char :=
  (trimStart (trimStart text).reverse).reverse

end FindQuery.Text
