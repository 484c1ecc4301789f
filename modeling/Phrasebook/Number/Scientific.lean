import Phrasebook.Number.Binary64
import Phrasebook.Number.Decimal
import Phrasebook.Text.Digit
import Phrasebook.Text.Whitespace

/-! Numerals in scientific notation: an optional sign, digits with at most one point, an optional
exponent; and the words for infinities and NaN. -/

namespace Phrasebook

/-- The value of a numeral: a signed `coefficient * 10 ^ exponent`. -/
structure Scientific where
  negative : Bool
  coefficient : Nat
  exponent : Int

namespace Scientific

open Text (lit isAsciiDigit)

/-- The number written by ASCII digits. -/
def ofDigits (digits : Text) : Nat := Digits.toNat 10 (digits.map (· - '0'.toNat))

/-- A numeral without the white space around it, and with ASCII digits for those of other scripts. -/
def plain (text : Text) : Text :=
  (Text.trimmed text).map fun c => (Text.digitValue? c).elim c ('0'.toNat + ·)

/-- An optional sign and what follows it. -/
def splitSign : Text → Bool × Text
  | [] => (false, [])
  | c :: rest =>
    if c = '-'.toNat then (true, rest)
    else if c = '+'.toNat then (false, rest)
    else (false, c :: rest)

/-- An exponent mark with its digits, or nothing, up to the end of the text. -/
def exponent? : Text → Option Int
  | [] => some 0
  | c :: rest =>
    if c = 'e'.toNat ∨ c = 'E'.toNat then
      let (negative, digits) := splitSign rest
      if digits ≠ [] ∧ digits.all isAsciiDigit then
        some (if negative then -(ofDigits digits : Int) else ofDigits digits)
      else none
    else none

/-- The numeral that a whole text is. -/
def read? (text : Text) : Option Scientific := do
  let (negative, unsigned) := splitSign text
  let whole := unsigned.takeWhile isAsciiDigit
  let rest := unsigned.dropWhile isAsciiDigit
  let (behind, rest) :=
    match rest with
    | c :: rest =>
      if c = '.'.toNat then (rest.takeWhile isAsciiDigit, rest.dropWhile isAsciiDigit)
      else ([], c :: rest)
    | [] => ([], [])
  guard (whole ++ behind ≠ [])
  let exponent ← exponent? rest
  return ⟨negative, ofDigits (whole ++ behind), exponent - behind.length⟩

end Scientific

open Scientific Text

/-- The number that a numeral or one of the words `inf`, `infinity` and `nan` stands for. -/
def Binary64.ofText? (text : Text) : Option Binary64 :=
  let (negative, word) := splitSign (asciiLower text)
  if word = lit "nan" then some .nan
  else if word = lit "inf" ∨ word = lit "infinity" then some (.infinity negative)
  else (read? text).map fun n => .ofDecimal n.negative n.coefficient n.exponent

/-- The number that a numeral or one of the words `inf`, `infinity`, `nan` and `snan` stands for;
digits may follow the last two.  Low lines and white space around are not looked at. -/
def Decimal.ofText? (text : Text) : Option Decimal :=
  let (negative, word) := splitSign (asciiLower ((plain text).filter (· != '_'.toNat)))
  let diagnostic? (digits : Text) : Option Nat :=
    if digits.all isAsciiDigit then some (ofDigits digits) else none
  if word = lit "inf" ∨ word = lit "infinity" then some (.infinity negative)
  else match after? (lit "snan") word, after? (lit "nan") word with
    | some digits, _ => (diagnostic? digits).map (.nan negative true)
    | none, some digits => (diagnostic? digits).map (.nan negative false)
    | none, none => (read? text).map fun n => .finite n.negative n.coefficient n.exponent

end Phrasebook
