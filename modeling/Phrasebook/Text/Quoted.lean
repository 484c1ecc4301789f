import Phrasebook.Number.Digits
import Phrasebook.Text.Printable

/-! Quoted text: single quotes, unless the text holds a single quote and no double quote; a
backslash before the quote and itself, and escapes for all that is not printable. -/

namespace Phrasebook.Text

/-- The quotation mark that `quoted` puts around `text`. -/
def quotationMark (text : Text) : Nat :=
  if text.contains '\''.toNat && !text.contains '"'.toNat then '"'.toNat else '\''.toNat

/-- One character as it stands between the quotation marks `mark`. -/
def escaped (mark c : Nat) : Text :=
  if c = mark ∨ c = '\\'.toNat then ['\\'.toNat, c]
  else if c = '\t'.toNat then lit "\\t"
  else if c = '\n'.toNat then lit "\\n"
  else if c = '\r'.toNat then lit "\\r"
  else if isPrintable c then [c]
  else if c ≤ 0xFF then lit "\\x" ++ hex 2 c
  else if c ≤ 0xFFFF then lit "\\u" ++ hex 4 c
  else lit "\\U" ++ hex 8 c

/-- `text` between quotation marks. -/
def quoted (text : Text) : Text :=
  let mark := quotationMark text
  mark :: (text.flatMap (escaped mark) ++ [mark])

end Phrasebook.Text
