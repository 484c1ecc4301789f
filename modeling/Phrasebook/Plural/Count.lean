import Phrasebook.Value

/-! Counts: the finite numbers that choose a plural form. -/

namespace Phrasebook

inductive Count where
  | int (n : Int)
  | binary (negative : Bool) (mantissa : Nat) (exponent : Int)
  | decimal (negative : Bool) (coefficient : Nat) (exponent : Int)

/-- A value as a count: an integer or a finite number, but not a truth value. -/
def Value.count? : Value → Option Count
  | .int n => some (.int n)
  | .float (.finite negative mantissa exponent) => some (.binary negative mantissa exponent)
  | .decimal (.finite negative coefficient exponent) =>
    some (.decimal negative coefficient exponent)
  | _ => Option.none

/-- A whole number, or `coefficient * 10 ^ exponent`. -/
inductive Quantity where
  | whole (n : Nat)
  | decimal (coefficient : Nat) (exponent : Int)

namespace Quantity

/-- The quantity without its fraction. -/
def wholePart : Quantity → Nat
  | whole n => n
  | decimal coefficient exponent => Decimal.wholePart coefficient exponent

/-- The whole number that a quantity is, if it has no fraction. -/
def whole? : Quantity → Option Nat
  | whole n => some n
  | decimal coefficient exponent =>
    if Scaled.isWhole 10 coefficient exponent then some (Scaled.wholePart 10 coefficient exponent)
    else none

end Quantity

/-- Why a count has no plural form: it is past the range of arithmetic, or a whole quotient by a
modulus has more digits than the working precision. -/
inductive Plural.Fault where
  | overflow
  | quotientTooLong
  deriving DecidableEq

namespace Count

open Plural (Fault)

/-- The magnitude of a count.  A binary number that is not whole is taken as the fewest decimal
digits that determine it; a decimal is rounded to the working precision. -/
def magnitude : Count → Except Fault Quantity
  | .int n => .ok (.whole n.natAbs)
  | .binary _ mantissa exponent =>
    if Scaled.isWhole 2 mantissa exponent then .ok (.whole (Scaled.wholePart 2 mantissa exponent))
    else
      let (digits, last) := Shortest.digits mantissa exponent
      .ok (.decimal digits last)
  | .decimal _ coefficient exponent =>
    match Decimal.rounded? coefficient exponent with
    | some (coefficient, exponent) => .ok (.decimal coefficient exponent)
    | none => .error .overflow

/-- Whether the magnitude is one. -/
def isUnit (count : Count) : Except Fault Bool :=
  count.magnitude.map fun
    | .whole n => n == 1
    | .decimal coefficient exponent => Decimal.isUnit coefficient exponent

/-- Whether the count is exactly one. -/
def isOne : Count → Bool
  | .int n => n == 1
  | .binary negative mantissa exponent =>
    !negative && Scaled.isWhole 2 mantissa exponent && Scaled.wholePart 2 mantissa exponent == 1
  | .decimal negative coefficient exponent => !negative && Decimal.isUnit coefficient exponent

end Count

end Phrasebook
