import Phrasebook.Locale
import Phrasebook.Number.Scientific
import Phrasebook.Text.Whitespace

/-! The number at the start of a text, with the digit groups and the decimal mark of a locale. -/

namespace Phrasebook.Locale

open Text (isWhitespace isDigit digitValue?)

/-- The digits behind the decimal mark, if the text starts with the mark. -/
def fractionRun (locale : Locale) : Text → Text
  | [] => []
  | c :: rest => if c = locale.decimal then rest.takeWhile isDigit else []

/-- The longest run of digits and group marks at the start of a text. -/
def wholeRun (locale : Locale) (text : Text) : Text :=
  text.takeWhile fun c => isDigit c || c == locale.group

/-- The number that a text without a sign starts with, if it starts with a digit. -/
def unsignedNumber? (locale : Locale) (negative : Bool) (text : Text) : Option Binary64 :=
  if text.head?.any isDigit then
    let whole := locale.wholeRun text
    let fraction := locale.fractionRun (text.drop whole.length)
    let digits := (whole ++ fraction).filterMap digitValue?
    some (.ofDecimal negative (Digits.toNat 10 digits) (-fraction.length))
  else none

/-- The number that a text starts with behind white space, or zero.  Digits may be of any script. -/
def leadingNumber (locale : Locale) (text : Text) : Binary64 :=
  let (negative, unsigned) := Scientific.splitSign (text.dropWhile isWhitespace)
  (locale.unsignedNumber? negative unsigned).getD (.ofDecimal false 0 0)

end Phrasebook.Locale
