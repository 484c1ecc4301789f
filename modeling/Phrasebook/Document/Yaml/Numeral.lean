import Phrasebook.Document.Yaml.Fault
import Phrasebook.Number.Scientific
import Phrasebook.Text.LowerCase
import Phrasebook.Text.QuotedString
import Phrasebook.Value

/-! Numbers in YAML documents: which plain scalars are numbers, and what a scalar stands for that is
said to be one.  Low lines between digits are not looked at; parts between colons are digits in base
sixty. -/

namespace Phrasebook.Yaml

open Text (lit isAsciiDigit after?)

def isBetween (low high : Char) (c : Nat) : Bool := low.toNat ≤ c && c ≤ high.toNat

/-- A low line, or a digit of a kind. -/
def orLine (isDigit : Nat → Bool) (c : Nat) : Bool := isDigit c || c == '_'.toNat

/-- A first digit of a kind, and after it others and low lines. -/
def isNumber (isFirst : Nat → Bool) (text : Text) : Bool :=
  text.head?.any isFirst && text.all (orLine isAsciiDigit)

/-- A digit in base sixty. -/
def isSixtieth : Text → Bool
  | [a] => isAsciiDigit a
  | [a, b] => isBetween '0' '5' a && isAsciiDigit b
  | _ => false

/-- Whether a text behind the mark of a base is made of digits and low lines, of which there is at
least one. -/
def isMarked (mark : String) (isDigit : Nat → Bool) (text : Text) : Bool :=
  match after? (lit mark) text with
  | some rest => rest ≠ [] && rest.all (orLine isDigit)
  | none => false

/-- Whether a plain scalar is an integer: in base two, eight, ten, sixteen or sixty. -/
def isInteger (text : Text) : Bool :=
  let unsigned := (Scientific.splitSign text).2
  isMarked "0b" (isBetween '0' '1') unsigned || isMarked "0" (isBetween '0' '7') unsigned ||
    unsigned == lit "0" || isMarked "0x" QuotedString.isHex unsigned ||
    match Text.split ':'.toNat unsigned with
    | [] => false
    | whole :: parts => isNumber (isBetween '1' '9') whole && parts.all isSixtieth

/-- Nothing, or an exponent with a sign. -/
def isExponent : Text → Bool
  | [] => true
  | [_] => false
  | mark :: sign :: digits =>
    (mark == 'e'.toNat || mark == 'E'.toNat) && (sign == '+'.toNat || sign == '-'.toNat) &&
      digits ≠ [] && digits.all isAsciiDigit

/-- Digits and low lines behind a point, and after them nothing or an exponent. -/
def isFraction (text : Text) : Bool := isExponent (text.dropWhile (orLine isAsciiDigit))

/-- Whether a plain scalar is a real number: with a point among its digits or before them, in base sixty
with a point at the end, infinite, or NaN.  Only a point before the digits keeps out a sign. -/
def isReal (text : Text) : Bool :=
  let unsigned := (Scientific.splitSign text).2
  let (whole, rest) := (unsigned.takeWhile (· != '.'.toNat), unsigned.dropWhile (· != '.'.toNat))
  let fraction := rest.drop 1
  if rest = [] then false
  else if whole = [] then
    (text == unsigned && fraction.head?.any isAsciiDigit && isFraction fraction) ||
      [lit "inf", lit "Inf", lit "INF"].contains fraction ||
      (text == unsigned && [lit "nan", lit "NaN", lit "NAN"].contains fraction)
  else match Text.split ':'.toNat whole with
    | [] => false
    | [whole] => isNumber isAsciiDigit whole && isFraction fraction
    | first :: parts =>
      isNumber isAsciiDigit first && parts.all isSixtieth && fraction.all (orLine isAsciiDigit)

/-- The digits of a text up to the first character that is none in the base. -/
def leadingDigits (base : Nat) (text : Text) : List Nat :=
  let value? (c : Nat) : Option Nat := (QuotedString.hexValue? c).filter (· < base)
  (text.takeWhile fun c => (value? c).isSome).filterMap value?

/-- What the digits of an integer may have before them in some bases. -/
def marks : List (Nat × Text) := [(2, lit "0b"), (8, lit "0o"), (16, lit "0x")]

/-- What follows the mark of a base, which need not be there. -/
def withoutMark (base : Nat) (text : Text) : Text :=
  ((marks.lookup base).bind fun mark => after? mark (Text.asciiLower text)).getD text

/-- An integer in a base.  Only in base ten the number of digits has a limit. -/
def integerIn (base : Nat) (text : Text) : Except Fault Int :=
  let (negative, unsigned) := Scientific.splitSign (Scientific.plain text)
  let unsigned := withoutMark base unsigned
  let digits := leadingDigits base unsigned
  if base = 10 ∧ Digits.limit < digits.length then .error (.tooManyDigits digits.length)
  else if digits = [] ∨ digits.length ≠ unsigned.length then .error (.integer base text)
  else .ok (signed negative (Digits.toNat base digits))

/-- A text without low lines and without its first sign, and whether that is a minus. -/
def splitNumber (text : Text) : Except Fault (Bool × Text) :=
  match text.filter (· != '_'.toNat) with
  | [] => .error .emptyNumber
  | digits => .ok (Scientific.splitSign digits)

def unsignedInteger (text : Text) : Except Fault Int :=
  match after? (lit "0b") text, after? (lit "0x") text, text with
  | some digits, _, _ => integerIn 2 digits
  | none, some digits, _ => integerIn 16 digits
  | none, none, [] => .error .emptyNumber
  | none, none, c :: _ =>
    if c = '0'.toNat then integerIn 8 text
    else do
      let parts ← (Text.split ':'.toNat text).mapM (integerIn 10)
      return parts.foldl (fun n part => n * 60 + part) 0

/-- The integer that a scalar stands for. -/
def readInteger (text : Text) : Except Fault Int := do
  let (negative, unsigned) ← splitNumber text
  let n ← unsignedInteger unsigned
  return if negative then -n else n

def real (text : Text) : Except Fault Binary64 :=
  match Binary64.ofText? (Scientific.plain text) with
  | some x => .ok x
  | none => .error (.real text)

/-- The number whose digits in base sixty are `parts`.  Finite ones are multiples of a least number. -/
def ofSixtieths (parts : List Binary64) : Binary64 :=
  let units? (x : Binary64) : Option Int :=
    (Value.float x).dyadic?.map fun (n, e) => n * Nat.pow 2 (e - Binary64.leastExponent).toNat
  match parts.mapM units? with
  | none => .nan
  | some units =>
    let n := units.foldl (fun n part => n * 60 + part) 0
    .nearest (n < 0) n.natAbs (Nat.pow 2 (-Binary64.leastExponent).toNat)

def unsignedReal (text : Text) : Except Fault Binary64 :=
  if text = lit ".inf" then .ok (.infinity false)
  else if text = lit ".nan" then .ok .nan
  else match Text.split ':'.toNat text with
    | [_] => real text
    | parts => ofSixtieths <$> parts.mapM real

/-- The real number that a scalar stands for. -/
def readReal (text : Text) : Except Fault Binary64 := do
  let (negative, unsigned) ← splitNumber (Text.lowerCase text)
  let x ← unsignedReal unsigned
  return if negative then x.negated else x

end Phrasebook.Yaml
