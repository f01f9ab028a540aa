import Scrutiny.Text.Ranges

/-! # White space

The characters that separate words, and cutting them off both ends of a text.
-/

namespace Scrutiny.Text

/-- The code points of white space. -/
def whiteSpaceRanges : Ranges := [
  (0x9, 0xD), (0x20, 0x20), (0x85, 0x85), (0xA0, 0xA0), (0x1680, 0x1680), (0x2000, 0x200A),
  (0x2028, 0x2029), (0x202F, 0x202F), (0x205F, 0x205F), (0x3000, 0x3000)]

/-- Whether a character is white space. -/
def isWhiteSpace (c : Char) : Bool :=
  whiteSpaceRanges.has c

/-- Characters without the white space at their start. -/
def trimStart (cs : List Char) : List Char :=
  cs.dropWhile isWhiteSpace

/-- Characters without the white space at either end. -/
def trimChars (cs : List Char) : List Char :=
  (trimStart (trimStart cs).reverse).reverse

/-- A text without the white space at either end. -/
def trim (text : String) : String :=
  String.ofList (trimChars text.toList)

/-- A text with the letters of the basic range in lower case. -/
def lowerBasic (text : String) : String :=
  String.ofList (text.toList.map Char.toLower)

end Scrutiny.Text
