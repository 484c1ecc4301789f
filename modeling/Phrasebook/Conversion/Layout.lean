import Phrasebook.Conversion.Basic
import Phrasebook.Number.Scientific

/-! The numbers that a conversion writes, and how signs, digits and blanks are laid out to a width. -/

namespace Phrasebook

/-- Why a conversion cannot be applied to a value.  The kind of the value is named by its text. -/
inductive Conversion.Fault where
  | widthTooBig
  | precisionTooBig
  | precisionTooLarge
  | unsupportedCharacter (character index : Nat)
  | realRequired (letter : Letter) (kind : Text)
  | integerRequired (letter : Letter) (kind : Text)
  | floatRequired (kind : Text)
  | characterRequired
  | characterOutOfRange
  | floatNan
  | floatInfinity
  | decimalNan
  | decimalInfinity
  | signalingNan
  | intTooLarge
  | tooManyDigits

/-- A conversion with its numbers read. -/
structure Layout where
  left : Bool
  plus : Bool
  blank : Bool
  zero : Bool
  alternate : Bool
  width : Nat
  precision : Option Nat

namespace Layout

open Conversion (Fault)
open Text (isAsciiDigit)

/-- The greatest width that is read.  Memory is taken as unbounded: no text of that width is ever
made. -/
def greatestWidth : Nat := 0x7fffffffffffffff

/-- The greatest precision that is read, which is the end of the range in which digits are counted. -/
def greatestPrecision : Nat := 0x7fffffff

/-- The number that digits write, whose first stands at `index` in the pattern.  The first digit
that is not ASCII is taken for a letter, which it cannot be. -/
def readNumber (digits : Text) (index greatest : Nat) (tooBig : Fault) : Except Fault Nat :=
  let ascii := digits.takeWhile isAsciiDigit
  let n := Scientific.ofDigits ascii
  if greatest < n then .error tooBig
  else match digits.dropWhile isAsciiDigit with
    | [] => .ok n
    | c :: _ => .error (.unsupportedCharacter c (index + ascii.length))

/-- The layout that a conversion asks for.  A width that starts with zeros sets the zero flag. -/
def ofConversion (spec : Conversion) : Except Fault Layout := do
  let start := 1 + spec.flags.length
  let width ← readNumber spec.width start greatestWidth .widthTooBig
  let precision ← match spec.precision with
    | none => pure none
    | some digits =>
      some <$> readNumber digits (start + spec.width.length + 1) greatestPrecision .precisionTooBig
  return {
    left := spec.flags.contains .left
    plus := spec.flags.contains .plus
    blank := spec.flags.contains .blank
    zero := spec.flags.contains .zero || spec.width.head? == some '0'.toNat
    alternate := spec.flags.contains .alternate
    width
    precision }

/-- Blanks around a text, behind it if it is to stand on the left. -/
def padText (layout : Layout) (text : Text) : Text :=
  let blanks := List.replicate (layout.width - text.length) ' '.toNat
  if layout.left then text ++ blanks else blanks ++ text

/-- The sign of a number: a number that is not negative has one only if a flag asks for it. -/
def signText (layout : Layout) (negative : Bool) : Text :=
  if negative then ['-'.toNat]
  else if layout.plus then ['+'.toNat]
  else if layout.blank then [' '.toNat]
  else []

/-- A sign, the mark of a base and digits.  Zeros fill the width between the mark and the digits;
blanks fill it in front or, if the number is to stand on the left, behind. -/
def padNumber (layout : Layout) (negative : Bool) (mark digits : Text) : Text :=
  let sign := layout.signText negative
  if layout.zero && !layout.left then
    let zeros := layout.width - (sign ++ mark ++ digits).length
    sign ++ mark ++ List.replicate zeros '0'.toNat ++ digits
  else layout.padText (sign ++ mark ++ digits)

end Layout

end Phrasebook
