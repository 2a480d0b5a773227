import DecisionFlow.Text.CodePoint

/-!
# Blank characters

A character is blank when it has the Unicode property `White_Space`. Trimming removes blank
characters from both ends of a text and leaves those between others alone.
-/

set_option autoImplicit false

namespace DecisionFlow.Text

/-- The code points with the property `White_Space`. -/
def blankRanges : CodeRanges := [
  (0x9, 0xd), (0x20, 0x20), (0x85, 0x85), (0xa0, 0xa0), (0x1680, 0x1680), (0x2000, 0x200a),
  (0x2028, 0x2029), (0x202f, 0x202f), (0x205f, 0x205f), (0x3000, 0x3000)]

/-- A blank character: space, tab, line end, no-break space and the other Unicode spaces. -/
def isBlank (c : Char) : Bool :=
  blankRanges.contains c.toNat

/-- The characters of a text without the blank ones at its two ends. -/
def trimChars (chars : List Char) : List Char :=
  ((chars.dropWhile isBlank).reverse.dropWhile isBlank).reverse

/-- The text without the blank characters at its two ends. -/
def trim (text : String) : String :=
  String.ofList (trimChars text.toList)

/-- A text is blank when nothing remains of it after trimming. -/
def isBlankText (text : String) : Bool :=
  text.toList.all isBlank

end DecisionFlow.Text
