import CommandSynthesis.Unicode.CodeRanges

set_option autoImplicit false

/-!
# Blank characters

A character is blank when Unicode gives it the property White_Space. A text is blank when all its
characters are, and trimming removes the blank characters at both ends.
-/

namespace CommandSynthesis.Text

open Unicode

def blankRanges : CodeRanges :=
  [(0x09, 0x0D), (0x20, 0x20), (0x85, 0x85), (0xA0, 0xA0), (0x1680, 0x1680), (0x2000, 0x200A),
    (0x2028, 0x2029), (0x202F, 0x202F), (0x205F, 0x205F), (0x3000, 0x3000)]

def isBlank (c : Char) : Bool :=
  blankRanges.contains c.toNat

/-- Whether nothing is left of a text when it is trimmed. -/
def isBlankText (text : String) : Bool :=
  text.toList.all isBlank

/-- A text without the blank characters at its two ends. -/
def trim (text : List Char) : List Char :=
  ((text.dropWhile isBlank).reverse.dropWhile isBlank).reverse

end CommandSynthesis.Text
