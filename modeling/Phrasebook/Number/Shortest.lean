import Phrasebook.Number.Binary64

/-! The fewest decimal digits that determine a binary floating-point number. -/

namespace Phrasebook.Shortest

/-- A positive fraction and the bounds of the fractions that round to the same number, all three
over one denominator; the bounds belong to the interval if `closed` holds. -/
structure Interval where
  value : Nat
  low : Nat
  high : Nat
  den : Nat
  closed : Bool

/-- The fractions that round to `mantissa * 2 ^ exponent`.  Below a power of two the neighbours lie
twice as close. -/
def Interval.ofBinary (mantissa : Nat) (exponent : Int) : Interval :=
  let below := if mantissa = Nat.pow 2 52 ∧ Binary64.leastExponent < exponent then 1 else 2
  let (unit, den) := Scaled.fraction 2 1 (exponent - 2)
  { value := 4 * mantissa * unit
    low := (4 * mantissa - below) * unit
    high := (4 * mantissa + 2) * unit
    den
    closed := mantissa % 2 == 0 }

def Interval.contains (i : Interval) (num den : Nat) : Bool :=
  let x := num * i.den
  let low := i.low * den
  let high := i.high * den
  if i.closed then low ≤ x && x ≤ high else low < x && x < high

/-- The exponent of the leading decimal digit of `num / den`. -/
def leadingExponent (num den : Nat) : Int :=
  let guess : Int := (Digits.count num : Int) - Digits.count den
  let reached :=
    if 0 ≤ guess then den * Nat.pow 10 guess.toNat ≤ num else den ≤ num * Nat.pow 10 (-guess).toNat
  if reached then guess else guess - 1

/-- The multiple of `10 ^ exponent` nearest to the value of the interval among the two that enclose
it, if one of them lies in the interval; of two equally near, the even one. -/
def onGrid? (i : Interval) (exponent : Int) : Option Nat :=
  let (step, one) := Scaled.fraction 10 1 exponent
  let num := i.value * one
  let den := i.den * step
  let below := num / den
  let nearer := roundHalfEven num den
  let farther := if nearer = below then below + 1 else below
  let fits n := let (num, den) := Scaled.fraction 10 n exponent; i.contains num den
  if fits nearer then some nearer
  else if fits farther then some farther
  else none

/-- The fewest digits, as a natural number and the exponent of its last digit, that lie in the
interval around a positive binary number; seventeen digits always do.  Ten of a power are one of the
next. -/
def digits (mantissa : Nat) (exponent : Int) : Nat × Int :=
  let i := Interval.ofBinary mantissa exponent
  let leading := leadingExponent i.value i.den
  let grids := (List.range 17).map fun (n : Nat) => leading - (n : Int)
  match grids.findSome? fun e => (onGrid? i e).map (·, e) with
  | some (10, e) => (1, e + 1)
  | some found => found
  | none => (mantissa, exponent)

end Phrasebook.Shortest
