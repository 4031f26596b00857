import FindQuery.Text.Mark
import FindQuery.Text.Pictograph

/-!
# Classes of characters inside a cluster

A reader sees some runs of characters as one sign: a letter with its marks, a
syllable written in letters, a flag, a family of emoji.  Where such a run ends
depends on the characters only through the classes of this module.
-/

namespace FindQuery.Text

/-- What a character does at the edges of a cluster. -/
inductive ClusterClass where
  | carriageReturn
  | lineFeed
  /-- Any other control, format or separator character. -/
  | control
  /-- A mark that extends what precedes it. -/
  | extending
  /-- A mark that links a consonant to the next one. -/
  | linker
  | nonJoiner
  | joiner
  /-- A mark that takes room of its own. -/
  | spacing
  /-- A sign that belongs to what follows it. -/
  | prepended
  /-- A consonant letter that opens a syllable. -/
  | leading
  /-- A vowel letter of a syllable. -/
  | vowel
  /-- A consonant letter that closes a syllable. -/
  | trailing
  /-- A written syllable that ends in its vowel. -/
  | openSyllable
  /-- A written syllable that ends in a consonant. -/
  | closedSyllable
  /-- One of the two letters of a flag. -/
  | regional
  | pictograph
  /-- A consonant that a linker joins. -/
  | consonant
  | other
  deriving DecidableEq, Repr, Inhabited

namespace ClusterClass

/-- The ranges of the controls other than the two of a line break. -/
def controlRanges : List CodeRange :=
  [
    (0x0, 0x9), (0xB, 0xC), (0xE, 0x1F), (0x7F, 0x9F),
    (0xAD, 0xAD), (0x61C, 0x61C), (0x180E, 0x180E), (0x200B, 0x200B),
    (0x200E, 0x200F), (0x2028, 0x202E), (0x2060, 0x206F), (0xFEFF, 0xFEFF),
    (0xFFF0, 0xFFFB), (0x13430, 0x1343F), (0x1BCA0, 0x1BCA3), (0x1D173, 0x1D17A),
    (0xE0000, 0xE001F), (0xE0080, 0xE00FF), (0xE01F0, 0xE0FFF)
  ]

/-- The ranges of the consonant letters that open a syllable. -/
def leadingRanges : List CodeRange :=
  [
    (0x1100, 0x115F), (0xA960, 0xA97C)
  ]

/-- The ranges of the vowel letters of a syllable. -/
def vowelRanges : List CodeRange :=
  [
    (0x1160, 0x11A7), (0xD7B0, 0xD7C6), (0x16D63, 0x16D63), (0x16D67, 0x16D6A)
  ]

/-- The ranges of the consonant letters that close a syllable. -/
def trailingRanges : List CodeRange :=
  [
    (0x11A8, 0x11FF), (0xD7CB, 0xD7FB)
  ]

/-- The range of the written syllables. -/
def syllableRanges : List CodeRange :=
  [
    (0xAC00, 0xD7A3)
  ]

/-- The range of the letters of flags. -/
def regionalRanges : List CodeRange :=
  [
    (0x1F1E6, 0x1F1FF)
  ]

/-- The written syllables come in rows of 28, and only the first of a row is open. -/
def ofSyllable (point : Nat) : ClusterClass :=
  if (point - 0xAC00) % 28 = 0 then .openSyllable else .closedSyllable

/-- The class of a code point. -/
def ofPoint (point : Nat) : ClusterClass :=
  if point = 0xD then .carriageReturn
  else if point = 0xA then .lineFeed
  else if point = 0x200C then .nonJoiner
  else if point = 0x200D then .joiner
  else if inRanges controlRanges point then .control
  else if inRanges linkerRanges point then .linker
  else if inRanges extendingRanges point then .extending
  else if inRanges spacingRanges point then .spacing
  else if inRanges prependedRanges point then .prepended
  else if inRanges leadingRanges point then .leading
  else if inRanges vowelRanges point then .vowel
  else if inRanges trailingRanges point then .trailing
  else if inRanges syllableRanges point then ofSyllable point
  else if inRanges regionalRanges point then .regional
  else if inRanges linkedConsonantRanges point then .consonant
  else if inRanges pictographRanges point then .pictograph
  else .other

/-- The class of a character. -/
def ofChar (character : Char) : ClusterClass :=
  ofPoint character.toNat

/-- Whether a cluster never reaches across a character of the class. -/
def isControl (kind : ClusterClass) : Bool :=
  kind matches .carriageReturn | .lineFeed | .control

/-- Whether a character of the class extends a pictograph. -/
def isExtension (kind : ClusterClass) : Bool :=
  kind matches .extending | .linker | .nonJoiner

/-- Whether a character of the class belongs to what precedes it. -/
def isMark (kind : ClusterClass) : Bool :=
  kind.isExtension || kind matches .joiner | .spacing

/-- Whether a character of the class may stand between a linker and a consonant. -/
def isConjunctMark (kind : ClusterClass) : Bool :=
  kind matches .extending | .linker | .joiner

end ClusterClass

end FindQuery.Text
