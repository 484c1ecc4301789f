import Phrasebook.Number.Digits
import Phrasebook.Number.Rounding

/-! Decimal floating-point numbers of any length, their scientific text, and rounding to the working
precision. -/

namespace Phrasebook

/-- A signed `coefficient * 10 ^ exponent`, an infinity, or a NaN with a diagnostic number. -/
inductive Decimal where
  | finite (negative : Bool) (coefficient : Nat) (exponent : Int)
  | infinity (negative : Bool)
  | nan (negative signaling : Bool) (diagnostic : Nat)

namespace Decimal

open Text (lit)

/-- The number of significant digits that arithmetic keeps. -/
def precision : Nat := 28

/-- The greatest exponent that the leading digit of a result of arithmetic can have. -/
def greatestExponent : Int := 999999

/-- The least exponent that the last digit of a result of arithmetic can have. -/
def leastExponent : Int := -1000026

/-- A magnitude rounded half-even to the working precision and to the least exponent, unless it is
past the greatest exponent. -/
def rounded? (coefficient : Nat) (exponent : Int) : Option (Nat × Int) :=
  let digits := Digits.count coefficient
  if coefficient = 0 then some (0, max leastExponent (min exponent greatestExponent))
  else
    let excess := max (digits - precision) (leastExponent - exponent).toNat
    let kept := if digits < excess then 0 else roundHalfEven coefficient (Nat.pow 10 excess)
    let (coefficient, exponent) :=
      if kept = Nat.pow 10 precision then (Nat.pow 10 (precision - 1), exponent + excess + 1)
      else (kept, exponent + excess)
    if greatestExponent < exponent + Digits.count coefficient - 1 then none
    else some (coefficient, exponent)

/-- `coefficient * 10 ^ exponent` without its fraction.  The number of digits tells first whether
anything is left. -/
def wholePart (coefficient : Nat) (exponent : Int) : Nat :=
  if coefficient = 0 ∨ (Digits.count coefficient : Int) + exponent ≤ 0 then 0
  else Scaled.wholePart 10 coefficient exponent

/-- Whether `coefficient * 10 ^ exponent` is one. -/
def isUnit (coefficient : Nat) (exponent : Int) : Bool :=
  exponent ≤ 0 && Digits.count coefficient == (-exponent).toNat + 1 &&
    coefficient == Nat.pow 10 (-exponent).toNat

/-- An exponent with its sign, which it always has. -/
def exponentText (e : Int) : Text := if e < 0 then Text.int e else '+'.toNat :: Text.int e

/-- `coefficient * 10 ^ exponent` in scientific notation: positional if the exponent is not positive
and at most five zeros follow the point, else with one digit before the point. -/
def magnitudeText (coefficient : Nat) (exponent : Int) : Text :=
  let digits := Text.numeral 10 coefficient
  let leftDigits : Int := exponent + digits.length
  let point : Int := if exponent ≤ 0 ∧ -6 < leftDigits then leftDigits else 1
  let mantissa :=
    if point ≤ 0 then lit "0." ++ List.replicate (-point).toNat '0'.toNat ++ digits
    else if digits.length ≤ point.toNat then digits
    else digits.take point.toNat ++ '.'.toNat :: digits.drop point.toNat
  if leftDigits = point then mantissa
  else mantissa ++ 'E'.toNat :: exponentText (leftDigits - point)

/-- The text from which the number reads back with its coefficient and exponent. -/
def text : Decimal → Text
  | .finite negative coefficient exponent =>
    Text.minus negative ++ magnitudeText coefficient exponent
  | .infinity negative => Text.minus negative ++ lit "Infinity"
  | .nan negative signaling diagnostic =>
    Text.minus negative ++ lit (if signaling then "sNaN" else "NaN") ++
      (if diagnostic = 0 then [] else Text.numeral 10 diagnostic)

end Decimal

end Phrasebook
