import Phrasebook.Conversion.Layout
import Phrasebook.Value

/-! The text of one value under one conversion. -/

namespace Phrasebook.Conversion

open Text (lit asciiUpper)

/-- The precision at which digits can no longer be counted. -/
def greatestDigits : Nat := 0x7ffffffc

/-- A real number without its fraction. -/
def truncated (letter : Letter) : Value → Except Fault Int
  | .int n => .ok n
  | .bool b => .ok b.toInt
  | .float .nan => .error .floatNan
  | .float (.infinity _) => .error .floatInfinity
  | .float (.finite negative mantissa exponent) =>
    .ok (signed negative (Scaled.wholePart 2 mantissa exponent))
  | .decimal (.nan ..) => .error .decimalNan
  | .decimal (.infinity _) => .error .decimalInfinity
  | .decimal (.finite negative coefficient exponent) =>
    .ok (signed negative (Decimal.wholePart coefficient exponent))
  | v => .error (.realRequired letter v.kindName)

/-- An integer, for a conversion that takes no other number. -/
def integer (letter : Letter) : Value → Except Fault Int
  | .int n => .ok n
  | .bool b => .ok b.toInt
  | v => .error (.integerRequired letter v.fullKindName)

/-- The binary number nearest to a real number. -/
def real : Value → Except Fault Binary64
  | .float x => .ok x
  | .int n => (Binary64.ofInt? n).elim (.error .intTooLarge) .ok
  | .bool b => (Binary64.ofInt? b.toInt).elim (.error .intTooLarge) .ok
  | .decimal (.finite negative coefficient exponent) =>
    .ok (.ofDecimal negative coefficient exponent)
  | .decimal (.infinity negative) => .ok (.infinity negative)
  | .decimal (.nan _ false _) => .ok .nan
  | .decimal (.nan _ true _) => .error .signalingNan
  | v => .error (.floatRequired v.kindName)

/-- One character, given by itself or by its code point. -/
def character : Value → Except Fault Nat
  | .text [c] => .ok c
  | .int n => if 0 ≤ n ∧ n < 0x110000 then .ok n.toNat else .error .characterOutOfRange
  | .bool b => .ok b.toNat
  | _ => .error .characterRequired

/-- An integer in a base, with at least as many digits as the precision says.  Decimal digits have a
limit. -/
def inBase (layout : Layout) (base : Nat) (mark : Text) (n : Int) : Except Fault Text :=
  let least := layout.precision.getD 0
  if greatestDigits < least then .error .precisionTooLarge
  else if base = 10 ∧ Digits.exceedsLimit n.natAbs then .error .tooManyDigits
  else
    let digits := Text.numeral base n.natAbs
    let digits := List.replicate (least - digits.length) '0'.toNat ++ digits
    .ok (layout.padNumber (n < 0) (if layout.alternate then mark else []) digits)

/-- The three ways to write the magnitude of a binary number. -/
inductive RealStyle where
  | fixed
  | scientific
  | general

/-- The digits behind the point that scientific notation takes from a precision.  The digit before
the point is counted with them; at the greatest precision that count is past its range, and there
are none. -/
def scientificPlaces (precision : Nat) : Nat :=
  if precision = Layout.greatestPrecision then 0 else precision

/-- Whether fixed notation can count its digits, those before the point with those behind it.  A
whole number of at most fifteen digits is written without counting. -/
def canCount (mantissa : Nat) (exponent : Int) (precision : Nat) : Bool :=
  let whole := Scaled.wholePart 2 mantissa exponent
  whole = 0 ∨ precision + Digits.count whole ≤ Layout.greatestPrecision ∨
    Scaled.isWhole 2 mantissa exponent ∧ whole < Nat.pow 10 15

/-- A magnitude in a style to a precision; `point` keeps a point that no digit follows.  Where fixed
notation cannot count its digits, it writes zeros. -/
def RealStyle.written (style : RealStyle) (mantissa : Nat) (exponent : Int) (precision : Nat)
    (point : Bool) : Text :=
  match style with
  | .fixed =>
    if canCount mantissa exponent precision then Notation.fixed mantissa exponent precision point
    else Notation.fixed 0 0 precision point
  | .scientific => Notation.scientific mantissa exponent (scientificPlaces precision) point
  | .general => Notation.general mantissa exponent precision point

/-- A real number in a style, with six digits if no precision is written.  NaN has no sign of its
own. -/
def inStyle (layout : Layout) (style : RealStyle) (upper : Bool) (x : Binary64) : Text :=
  let casing (digits : Text) : Text := if upper then asciiUpper digits else digits
  match x with
  | .nan => layout.padNumber false [] (casing (lit "nan"))
  | .infinity negative => layout.padNumber negative [] (casing (lit "inf"))
  | .finite negative mantissa exponent =>
    let digits := style.written mantissa exponent (layout.precision.getD 6) layout.alternate
    layout.padNumber negative [] (casing digits)

/-- The text of a value under a conversion. -/
def apply (spec : Conversion) (v : Value) : Except Fault Text := do
  let layout ← Layout.ofConversion spec
  match spec.letter with
  | .d | .i | .u => inBase layout 10 [] (← truncated spec.letter v)
  | .o => inBase layout 8 (lit "0o") (← integer .o v)
  | .x => inBase layout 16 (lit "0x") (← integer .x v)
  | .X => asciiUpper <$> inBase layout 16 (lit "0x") (← integer .X v)
  | .f => return inStyle layout .fixed false (← real v)
  | .F => return inStyle layout .fixed true (← real v)
  | .e => return inStyle layout .scientific false (← real v)
  | .E => return inStyle layout .scientific true (← real v)
  | .g => return inStyle layout .general false (← real v)
  | .G => return inStyle layout .general true (← real v)
  | .c => return layout.padText [← character v]
  | .s =>
    match v.shown? with
    | some shown => return layout.padText (layout.precision.elim shown shown.take)
    | none => throw .tooManyDigits

/-- What is wrong, in words. -/
def Fault.message : Fault → Text
  | .widthTooBig => lit "width too big"
  | .precisionTooBig => lit "precision too big"
  | .precisionTooLarge => lit "precision too large"
  | .unsupportedCharacter c index =>
    let shown := if 31 ≤ c ∧ c ≤ 126 then c else '?'.toNat
    lit "unsupported format character '" ++ shown :: lit "' (0x" ++ Text.numeral 16 c ++
      lit ") at index " ++ Text.numeral 10 index
  | .realRequired letter kind =>
    '%'.toNat :: letter.character :: lit " format: a real number is required, not " ++ kind
  | .integerRequired letter kind =>
    '%'.toNat :: letter.character :: lit " format: an integer is required, not " ++ kind
  | .floatRequired kind => lit "must be real number, not " ++ kind
  | .characterRequired => lit "%c requires int or char"
  | .characterOutOfRange => lit "%c arg not in range(0x110000)"
  | .floatNan => lit "cannot convert float NaN to integer"
  | .floatInfinity => lit "cannot convert float infinity to integer"
  | .decimalNan => lit "cannot convert NaN to integer"
  | .decimalInfinity => lit "cannot convert Infinity to integer"
  | .signalingNan => lit "cannot convert signaling NaN to float"
  | .intTooLarge => lit "int too large to convert to float"
  | .tooManyDigits => Digits.limitMessage none

end Phrasebook.Conversion
