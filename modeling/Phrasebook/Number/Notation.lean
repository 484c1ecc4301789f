import Phrasebook.Number.Shortest

/-! How the magnitude of a binary floating-point number is written: with a set number of places, in
scientific notation, in the shorter of the two, or with the fewest digits that determine it. -/

namespace Phrasebook.Notation

open Text (lit)

/-- The exact decimal expansion of `mantissa * 2 ^ exponent`: a natural number and how many of its
last digits are behind the point. -/
def expansion (mantissa : Nat) (exponent : Int) : Nat × Nat :=
  if 0 ≤ exponent then (mantissa * Nat.pow 2 exponent.toNat, 0)
  else (mantissa * Nat.pow 5 (-exponent).toNat, (-exponent).toNat)

/-- The expansion rounded half-even to `places` digits behind the point, as a natural number. -/
def toPlaces (mantissa : Nat) (exponent : Int) (places : Nat) : Nat :=
  let (digits, behind) := expansion mantissa exponent
  if behind ≤ places then digits * Nat.pow 10 (places - behind)
  else roundHalfEven digits (Nat.pow 10 (behind - places))

/-- `n` with its last `places` digits behind a point; a point without digits behind it is written
only if `point` holds. -/
def withPlaces (n places : Nat) (point : Bool) : Text :=
  let digits := Text.numeral 10 n
  let digits := List.replicate (places + 1 - digits.length) '0'.toNat ++ digits
  let whole := digits.take (digits.length - places)
  if places = 0 then if point then whole ++ ['.'.toNat] else whole
  else whole ++ '.'.toNat :: digits.drop (digits.length - places)

/-- Exactly `places` digits behind the point. -/
def fixed (mantissa : Nat) (exponent : Int) (places : Nat) (point : Bool) : Text :=
  withPlaces (toPlaces mantissa exponent places) places point

/-- Significant digits and the decimal exponent of the first of them.  A value with fewer than
`count` digits keeps them all; zero is the one digit 0 with exponent 0. -/
def significant (mantissa : Nat) (exponent : Int) (count : Nat) : List Nat × Int :=
  let (n, behind) := expansion mantissa exponent
  let digits := Digits.ofNat 10 n
  let leading : Int := digits.length - 1 - behind
  if n = 0 then ([0], 0)
  else if digits.length ≤ count then (digits, leading)
  else
    let kept := Digits.ofNat 10 (roundHalfEven n (Nat.pow 10 (digits.length - count)))
    if kept.length ≤ count then (kept, leading) else (kept.dropLast, leading + 1)

/-- `digits` with zeros behind them up to `count` of them. -/
def padded (digits : List Nat) (count : Nat) : List Nat :=
  digits ++ List.replicate (count - digits.length) 0

/-- The exponent mark: a letter, a sign, and at least two digits. -/
def exponentMark (e : Int) : Text :=
  let digits := Text.numeral 10 e.natAbs
  'e'.toNat :: (if e < 0 then '-'.toNat else '+'.toNat) ::
    (List.replicate (2 - digits.length) '0'.toNat ++ digits)

/-- Digits with a point behind the first of them.  A last point is written only if `point`. -/
def leadingPoint (digits : List Nat) (point : Bool) : Text :=
  match Digits.text digits with
  | [] => []
  | d :: [] => if point then [d, '.'.toNat] else [d]
  | d :: rest => d :: '.'.toNat :: rest

/-- One digit before the point, `places` behind it, and an exponent. -/
def scientific (mantissa : Nat) (exponent : Int) (places : Nat) (point : Bool) : Text :=
  let (digits, leading) := significant mantissa exponent (places + 1)
  leadingPoint (padded digits (places + 1)) point ++ exponentMark leading

/-- Digits whose first has the decimal exponent `leading`, written without an exponent; `point` asks
for a point that no digit follows. -/
def positional (digits : List Nat) (leading : Int) (point : Bool) : Text :=
  if leading < 0 then
    lit "0." ++ List.replicate (-leading - 1).toNat '0'.toNat ++ Digits.text digits
  else
    let before := leading.toNat + 1
    let whole := Digits.text (padded (digits.take before) before)
    match Digits.text (digits.drop before) with
    | [] => if point then whole ++ ['.'.toNat] else whole
    | behind => whole ++ '.'.toNat :: behind

/-- `count` significant digits, at least one, without an exponent if the leading digit's exponent is
from -4 up to `count`.  Zeros at the end are kept only if `point` holds, which also keeps a last
point. -/
def general (mantissa : Nat) (exponent : Int) (count : Nat) (point : Bool) : Text :=
  let count := max count 1
  let (digits, leading) := significant mantissa exponent count
  let digits :=
    if point then padded digits count
    else match Digits.withoutTrailingZeros digits with
      | [] => [0]
      | digits => digits
  if -4 ≤ leading ∧ leading < count then positional digits leading point
  else leadingPoint digits point ++ exponentMark leading

/-- The fewest digits that determine the number, without an exponent if the leading digit's exponent
is from -4 to 15; a whole number then has one zero behind the point. -/
def natural (mantissa : Nat) (exponent : Int) : Text :=
  if mantissa = 0 then lit "0.0"
  else
    let (n, last) := Shortest.digits mantissa exponent
    let digits := Digits.ofNat 10 n
    let leading : Int := last + digits.length - 1
    if -4 ≤ leading ∧ leading < 16 then
      let written := positional digits leading true
      if written.getLast? = some '.'.toNat then written ++ ['0'.toNat] else written
    else leadingPoint digits false ++ exponentMark leading

end Phrasebook.Notation
