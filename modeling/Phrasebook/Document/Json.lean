import Phrasebook.Number.Scientific
import Phrasebook.Text.QuotedString
import Phrasebook.Text.Whitespace
import Phrasebook.Value

/-! JSON documents as values, with the names for infinities and NaN, and with the place of a fault
by line and column. -/

namespace Phrasebook.Json

open Text (lit isAsciiDigit onto skipSpaces)
open QuotedString (Item)

inductive Reason where
  | valueExpected
  | nameExpected
  | colonExpected
  | commaExpected
  | extraData
  | unterminatedString
  | controlCharacter
  | invalidEscape
  | invalidUnit
  | byteOrderMark
  | tooManyDigits (count : Nat)
  deriving DecidableEq

/-- A reason and the text that is left where it was found. -/
abbrev Fault := Reason × Text

/-- The items of a string up to its closing quotation mark.  `opening` is the text from the opening
one on.  A unit must have a character behind it. -/
def readItems (opening : Text) : Text → Except Fault (List Item × Text)
  | [] => .error (.unterminatedString, opening)
  | c :: rest =>
    if c = '"'.toNat then .ok ([], rest)
    else if c < 0x20 then .error (.controlCharacter, c :: rest)
    else if c ≠ '\\'.toNat then onto (.plain c) (readItems opening rest)
    else match rest with
      | [] => .error (.unterminatedString, opening)
      | letter :: rest =>
        if (QuotedString.escapes.lookup letter).isSome then
          onto (.escape letter) (readItems opening rest)
        else if letter = 'u'.toNat then
          match rest with
          | a :: b :: c :: d :: behind =>
            if [a, b, c, d].all QuotedString.isHex && !behind.isEmpty then
              onto (.unit a b c d) (readItems opening behind)
            else .error (.invalidUnit, letter :: rest)
          | _ => .error (.invalidUnit, letter :: rest)
        else .error (.invalidEscape, c :: letter :: rest)

/-- The string at the start of a text, which begins with its opening quotation mark. -/
def readString (text : Text) : Except Fault (Text × Text) :=
  (readItems text (text.drop 1)).map fun (items, rest) => (QuotedString.decode items, rest)

/-- A point and at least one digit, if they are there. -/
def splitFraction (text : Text) : Text × Text :=
  match text with
  | c :: d :: rest =>
    if c = '.'.toNat && isAsciiDigit d then
      (c :: (d :: rest).takeWhile isAsciiDigit, (d :: rest).dropWhile isAsciiDigit)
    else ([], text)
  | _ => ([], text)

/-- An exponent mark with at least one digit, if they are there. -/
def splitExponent (text : Text) : Text × Text :=
  match text with
  | c :: rest =>
    if c = 'e'.toNat || c = 'E'.toNat then
      let sign := rest.take 1 |>.filter fun c => c == '+'.toNat || c == '-'.toNat
      let digits := (rest.drop sign.length).takeWhile isAsciiDigit
      if digits.isEmpty then ([], text)
      else (c :: (sign ++ digits), rest.drop (sign.length + digits.length))
    else ([], text)
  | [] => ([], [])

/-- The digits before the point: a zero alone, or digits that do not begin with one. -/
def splitWhole (text : Text) : Text × Text :=
  match text with
  | c :: rest =>
    if c = '0'.toNat then ([c], rest)
    else (text.takeWhile isAsciiDigit, text.dropWhile isAsciiDigit)
  | [] => ([], [])

/-- The number at the start of a text.  With a fraction or an exponent it is binary. -/
def readNumber (text : Text) : Except Fault (Value × Text) :=
  let sign := if text.head? = some '-'.toNat then ['-'.toNat] else []
  let (whole, rest) := splitWhole (text.drop sign.length)
  if whole.isEmpty then .error (.valueExpected, text)
  else
    let (fraction, rest) := splitFraction rest
    let (exponent, rest) := splitExponent rest
    if fraction.isEmpty && exponent.isEmpty && Digits.limit < whole.length then
      .error (.tooManyDigits whole.length, text)
    else if fraction.isEmpty && exponent.isEmpty then
      let n : Int := Scientific.ofDigits whole
      .ok (.int (if sign.isEmpty then n else -n), rest)
    else
      .ok (.float ((Binary64.ofText? (sign ++ whole ++ fraction ++ exponent)).getD .nan), rest)

/-- The words that stand for values. -/
def words : List (Text × Value) := [
  (lit "null", .none), (lit "true", .bool true), (lit "false", .bool false),
  (lit "NaN", .float .nan), (lit "Infinity", .float (.infinity false)),
  (lit "-Infinity", .float (.infinity true))]

/-- A word or a number. -/
def readAtom (text : Text) : Except Fault (Value × Text) :=
  match words.findSome? fun (word, v) => (Text.after? word text).map fun rest => (v, rest) with
  | some found => .ok found
  | none => readNumber text

mutual

/-- The value at the start of a text.  The levels that are open and the members behind which they are
come to less than `bound`. -/
def readValue (bound : Nat) (text : Text) : Except Fault (Value × Text) :=
  match bound, text with
  | 0, _ => .error (.valueExpected, text)
  | _, [] => .error (.valueExpected, [])
  | bound + 1, c :: rest =>
    if c = '"'.toNat then (readString text).map fun (s, rest) => (.text s, rest)
    else if c = '{'.toNat then
      match skipSpaces rest with
      | d :: after =>
        if d = '}'.toNat then .ok (.map [], after) else readMembers bound [] (d :: after)
      | [] => .error (.nameExpected, [])
    else if c = '['.toNat then
      match skipSpaces rest with
      | d :: after =>
        if d = ']'.toNat then .ok (.list [], after) else readElements bound [] (d :: after)
      | [] => .error (.valueExpected, [])
    else readAtom text

/-- The members of an object behind the entries that are read. -/
def readMembers (bound : Nat) (entries : List (Value × Value)) (text : Text) :
    Except Fault (Value × Text) :=
  match bound with
  | 0 => .error (.valueExpected, text)
  | bound + 1 => do
    if text.head? ≠ some '"'.toNat then throw (.nameExpected, text)
    let (key, rest) ← readString text
    let rest := skipSpaces rest
    if rest.head? ≠ some ':'.toNat then throw (.colonExpected, rest)
    let (v, rest) ← readValue bound (skipSpaces (rest.drop 1))
    let rest := skipSpaces rest
    let entries := Value.put (.text key) v entries
    if rest.head? = some '}'.toNat then return (.map entries, rest.drop 1)
    if rest.head? ≠ some ','.toNat then throw (.commaExpected, rest)
    readMembers bound entries (skipSpaces (rest.drop 1))

/-- The elements of an array behind the ones that are read, which are the latest first. -/
def readElements (bound : Nat) (items : List Value) (text : Text) :
    Except Fault (Value × Text) :=
  match bound with
  | 0 => .error (.valueExpected, text)
  | bound + 1 => do
    let (v, rest) ← readValue bound text
    let rest := skipSpaces rest
    if rest.head? = some ']'.toNat then return (.list (v :: items).reverse, rest.drop 1)
    if rest.head? ≠ some ','.toNat then throw (.commaExpected, rest)
    readElements bound (v :: items) (skipSpaces (rest.drop 1))

end

/-- The value that a whole document is.  Every level and every member has a character of its own, which
bounds their number. -/
def read (text : Text) : Except Fault Value := do
  if text.head? = some 0xFEFF then throw (.byteOrderMark, text)
  let (v, rest) ← readValue (2 * text.length + 2) (skipSpaces text)
  match skipSpaces rest with
  | [] => return v
  | c :: rest => throw (.extraData, c :: rest)

def Reason.message : Reason → Text
  | .valueExpected => lit "Expecting value"
  | .nameExpected => lit "Expecting property name enclosed in double quotes"
  | .colonExpected => lit "Expecting ':' delimiter"
  | .commaExpected => lit "Expecting ',' delimiter"
  | .extraData => lit "Extra data"
  | .unterminatedString => lit "Unterminated string starting at"
  | .controlCharacter => lit "Invalid control character at"
  | .invalidEscape => lit "Invalid \\escape"
  | .invalidUnit => lit "Invalid \\uXXXX escape"
  | .byteOrderMark => lit "Unexpected UTF-8 BOM (decode using utf-8-sig)"
  | .tooManyDigits count => Digits.limitMessage (some count)

/-- Whether the wording tells the place of a fault. -/
def Reason.isPlaced : Reason → Bool
  | .tooManyDigits _ => false
  | _ => true

/-- A place in a document by line and column, counted from one, and by the characters before it. -/
def placeText (document : Text) (offset : Nat) : Text :=
  let before := document.take offset
  let line := before.count '\n'.toNat + 1
  let column := (before.reverse.takeWhile (· != '\n'.toNat)).length + 1
  lit ": line " ++ Text.numeral 10 line ++ lit " column " ++ Text.numeral 10 column ++
    lit " (char " ++ Text.numeral 10 offset ++ lit ")"

/-- The wording of a fault in a document: the reason and the place. -/
def message (document : Text) (fault : Fault) : Text :=
  fault.1.message ++
    if fault.1.isPlaced then placeText document (document.length - fault.2.length) else []

end Phrasebook.Json
