import Phrasebook.Text.Basic

/-! White space: that of Unicode 14 with the four information separators, and the four characters that
separate marks in braces. -/

namespace Phrasebook.Text

/-- The characters of white space. -/
def whitespace : List Nat := [
  0x9, 0xA, 0xB, 0xC, 0xD, 0x1C, 0x1D, 0x1E, 0x1F, 0x20, 0x85,
  0xA0, 0x1680, 0x2000, 0x2001, 0x2002, 0x2003, 0x2004, 0x2005, 0x2006, 0x2007, 0x2008,
  0x2009, 0x200A, 0x2028, 0x2029, 0x202F, 0x205F, 0x3000]

/-- White space and the information separators U+001C to U+001F. -/
def isWhitespace (c : Nat) : Bool := whitespace.contains c

/-- A text without the white space at its ends. -/
def trimmed (text : Text) : Text :=
  ((text.dropWhile isWhitespace).reverse.dropWhile isWhitespace).reverse

/-- The blank, the tab and the characters that end lines. -/
def isSpace (c : Nat) : Bool :=
  c == ' '.toNat || c == '\t'.toNat || c == '\n'.toNat || c == '\r'.toNat

/-- What follows the spaces at the start of a text. -/
def skipSpaces (text : Text) : Text := text.dropWhile isSpace

theorem length_skipSpaces_le (text : Text) : (skipSpaces text).length ≤ text.length :=
  (List.dropWhile_suffix isSpace).length_le

end Phrasebook.Text
