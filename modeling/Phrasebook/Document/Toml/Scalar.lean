import Phrasebook.Document.Basic
import Phrasebook.Document.Toml.Text
import Phrasebook.Value

/-! Numbers, dates and times in TOML documents. -/

namespace Phrasebook.Toml

open Document (number?)
open Text (lit isAsciiDigit after?)

/-- Why a document is none; or an integer in it has too many digits, of which there are `count`. -/
inductive Fault where
  | malformed
  | tooManyDigits (count : Nat)
  deriving DecidableEq

/-- Digits with single low lines between them, and what follows them; the lines are left out. -/
def takeDigits (isDigit : Nat → Bool) : Text → Text × Text
  | [] => ([], [])
  | [c] => if isDigit c then ([c], []) else ([], [c])
  | c :: d :: rest =>
    if !isDigit c then ([], c :: d :: rest)
    else if d = '_'.toNat then
      if rest.head?.any isDigit then
        let (digits, rest) := takeDigits isDigit rest
        (c :: digits, rest)
      else ([c], d :: rest)
    else
      let (digits, rest) := takeDigits isDigit (d :: rest)
      (c :: digits, rest)

def isInBase (base c : Nat) : Bool := (QuotedString.hexValue? c).any (· < base)

/-- An integer in base two, eight or sixteen behind the mark of the base. -/
def readInBase? (text : Text) : Option (Nat × Text) :=
  let read (mark : String) (base : Nat) : Option (Nat × Text) := do
    let (digits, rest) := takeDigits (isInBase base) (← after? (lit mark) text)
    guard (digits ≠ [])
    return (Digits.toNat base (digits.filterMap QuotedString.hexValue?), rest)
  (read "0x" 16).orElse fun _ => (read "0o" 8).orElse fun _ => read "0b" 2

/-- The digits before the point, of which a zero is the only one if it is the first. -/
def takeWhole : Text → Text × Text
  | [] => ([], [])
  | c :: rest => if c = '0'.toNat then ([c], rest) else takeDigits isAsciiDigit (c :: rest)

/-- A point with digits, if they are there. -/
def takeFraction : Text → Text × Text
  | [] => ([], [])
  | c :: rest =>
    match takeDigits isAsciiDigit rest with
    | ([], _) => ([], c :: rest)
    | (digits, behind) => if c = '.'.toNat then (c :: digits, behind) else ([], c :: rest)

/-- An exponent mark with digits, if they are there. -/
def takeExponent : Text → Text × Text
  | [] => ([], [])
  | c :: rest =>
    let sign := (rest.take 1).filter fun c => c == '+'.toNat || c == '-'.toNat
    match takeDigits isAsciiDigit (rest.drop sign.length) with
    | ([], _) => ([], c :: rest)
    | (digits, behind) =>
      if c = 'e'.toNat ∨ c = 'E'.toNat then (c :: (sign ++ digits), behind) else ([], c :: rest)

/-- A decimal number.  With a fraction or an exponent it is binary. -/
def readDecimal? (text : Text) : Except Fault (Option (Value × Text)) :=
  let (negative, unsigned) := Scientific.splitSign text
  let (whole, rest) := takeWhole unsigned
  let (fraction, rest) := takeFraction rest
  let (exponent, rest) := takeExponent rest
  if whole = [] then .ok none
  else if fraction = [] ∧ exponent = [] then
    if Digits.limit < whole.length then .error (.tooManyDigits whole.length)
    else .ok (some (.int (signed negative (Scientific.ofDigits whole)), rest))
  else
    .ok ((Scientific.read? (whole ++ fraction ++ exponent)).map fun n =>
      (.float (.ofDecimal negative n.coefficient n.exponent), rest))

/-- A word for infinity or NaN, which may have a sign. -/
def readWord? (text : Text) : Option (Value × Text) :=
  let (negative, unsigned) := Scientific.splitSign text
  match after? (lit "inf") unsigned, after? (lit "nan") unsigned with
  | some rest, _ => some (.float (.infinity negative), rest)
  | none, some rest => some (.float .nan, rest)
  | none, none => none

/-- Seconds behind a colon, which may have a fraction, or none. -/
def readSeconds (text : Text) : (Nat × Nat) × Text :=
  match (after? (lit ":") text).bind (number? 2 2) with
  | none => ((0, 0), text)
  | some (second, rest) =>
    if 59 < second then ((0, 0), text)
    else match after? (lit ".") rest with
      | none => ((second, 0), rest)
      | some behind =>
        let digits := behind.takeWhile isAsciiDigit
        if digits = [] then ((second, 0), rest)
        else ((second, Document.microseconds digits), behind.drop digits.length)

/-- Hours and minutes with a colon between them. -/
def readMinutes? (text : Text) : Option ((Nat × Nat) × Text) := do
  let (hour, rest) ← number? 2 2 text
  let (minute, rest) ← number? 2 2 (← after? (lit ":") rest)
  guard (hour ≤ 23 ∧ minute ≤ 59)
  return ((hour, minute), rest)

def readClock? (text : Text) : Option (Clock × Text) := do
  let ((hour, minute), rest) ← readMinutes? text
  let ((second, microsecond), rest) := readSeconds rest
  return (⟨hour, minute, second, microsecond⟩, rest)

/-- An offset from the universal time, if there is one. -/
def readOffset (text : Text) : Option Int × Text :=
  match text with
  | [] => (none, [])
  | c :: rest =>
    if c = 'Z'.toNat ∨ c = 'z'.toNat then (some 0, rest)
    else if c = '+'.toNat ∨ c = '-'.toNat then
      match readMinutes? rest with
      | some ((hour, minute), rest) =>
        (some (signed (c == '-'.toNat) (hour * 60 + minute)), rest)
      | none => (none, text)
    else (none, text)

def readDate? (text : Text) : Option (Date × Text) := do
  let (year, rest) ← number? 4 4 text
  let (month, rest) ← number? 2 2 (← after? (lit "-") rest)
  let (day, rest) ← number? 2 2 (← after? (lit "-") rest)
  return (⟨year, month, day⟩, rest)

/-- The time behind a date, if there is one. -/
def readTime? (text : Text) : Option (Clock × Text) :=
  match text with
  | [] => none
  | c :: rest => if [' ', 'T', 't'].any (·.toNat == c) then readClock? rest else none

/-- A date, a time or both. -/
def readMoment? (text : Text) : Except Fault (Option (Moment × Text)) :=
  match readDate? text with
  | none => .ok ((readClock? text).map fun (clock, rest) => (.clock clock, rest))
  | some (date, rest) =>
    match Moment.checkedDate date with
    | .error _ => .error .malformed
    | .ok date =>
      match readTime? rest with
      | none => .ok (some (.date date, rest))
      | some (clock, rest) =>
        let (offset, rest) := readOffset rest
        .ok (some (.dateTime date clock offset, rest))

/-- A value that is neither quoted nor in brackets. -/
def readBare (text : Text) : Except Fault (Value × Text) := do
  match after? (lit "true") text, after? (lit "false") text with
  | some rest, _ => return (.bool true, rest)
  | none, some rest => return (.bool false, rest)
  | none, none =>
    match ← readMoment? text with
    | some (moment, rest) => return (.moment moment, rest)
    | none =>
      match readInBase? text with
      | some (n, rest) => return (.int n, rest)
      | none =>
        match ← readDecimal? text with
        | some found => return found
        | none =>
          match readWord? text with
          | some found => return found
          | none => throw .malformed

end Phrasebook.Toml
