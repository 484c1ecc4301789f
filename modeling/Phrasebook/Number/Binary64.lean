import Phrasebook.Number.Digits
import Phrasebook.Number.Rounding

/-! Binary floating-point numbers of 64 bits, held as exact dyadic values, and the number of this
format that is nearest to a fraction. -/

namespace Phrasebook

/-- NaN, an infinity, or the value `mantissa * 2 ^ exponent` with a sign that zero has too. -/
inductive Binary64 where
  | nan
  | infinity (negative : Bool)
  | finite (negative : Bool) (mantissa : Nat) (exponent : Int)

namespace Binary64

def negated : Binary64 → Binary64
  | .nan => .nan
  | .infinity negative => .infinity !negative
  | .finite negative mantissa exponent => .finite (!negative) mantissa exponent

def leastExponent : Int := -1074

def greatestExponent : Int := 971

/-- An exponent at which `num / den` has a whole part of 53 bits, or the least one. -/
def exponentFor (num den : Nat) : Int :=
  let guess : Int := (num.log2 : Int) - den.log2 - 53
  let (unit, one) := Scaled.fraction 2 (den * Nat.pow 2 53) guess
  let exact := if num * one < unit then guess else guess + 1
  max exact leastExponent

/-- The number nearest to `num / den`, of two equally near the one with the even mantissa; past the
greatest finite number, an infinity. -/
def nearest (negative : Bool) (num den : Nat) : Binary64 :=
  if num = 0 then .finite negative 0 leastExponent
  else
    let exponent := exponentFor num den
    let (unit, one) := Scaled.fraction 2 den exponent
    let mantissa := roundHalfEven (num * one) unit
    let (mantissa, exponent) :=
      if mantissa = Nat.pow 2 53 then (Nat.pow 2 52, exponent + 1) else (mantissa, exponent)
    if greatestExponent < exponent then .infinity negative
    else .finite negative mantissa exponent

/-- The number nearest to `coefficient * 10 ^ exponent`.  Magnitudes far outside the range are
settled by their number of digits alone. -/
def ofDecimal (negative : Bool) (coefficient : Nat) (exponent : Int) : Binary64 :=
  let magnitude : Int := exponent + Digits.count coefficient
  if coefficient = 0 ∨ magnitude < -330 then .finite negative 0 leastExponent
  else if 310 < magnitude then .infinity negative
  else if 0 ≤ exponent then nearest negative (coefficient * Nat.pow 10 exponent.toNat) 1
  else nearest negative coefficient (Nat.pow 10 (-exponent).toNat)

/-- The number nearest to an integer, unless the integer is past the greatest finite number. -/
def ofInt? (n : Int) : Option Binary64 :=
  match nearest (n < 0) n.natAbs 1 with
  | .infinity _ => none
  | x => some x

end Binary64

end Phrasebook
