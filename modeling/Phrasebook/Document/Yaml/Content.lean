import Phrasebook.Document.Yaml.Tag

/-! What the text of a scalar in a YAML document stands for under its tag. -/

namespace Phrasebook.Yaml

/-- The number of six bits that a character of base 64 stands for. -/
def sextet? (c : Nat) : Option Nat :=
  if isBetween 'A' 'Z' c then some (c - 'A'.toNat)
  else if isBetween 'a' 'z' c then some (c - 'a'.toNat + 26)
  else if Text.isAsciiDigit c then some (c - '0'.toNat + 52)
  else if c = '+'.toNat then some 62
  else if c = '/'.toNat then some 63
  else none

/-- The numbers of six bits in a text behind the ones that are found, which are the latest first.
Other characters are skipped, but equal signs end the text where they fill up four characters. -/
def readSextets? (found : List Nat) (fill : Nat) : Text → Option (List Nat)
  | [] => if found.length % 4 = 0 then some found.reverse else none
  | c :: rest =>
    if c = '='.toNat then
      if found.length % 4 < 2 then readSextets? found fill rest
      else if 4 ≤ found.length % 4 + fill + 1 then some found.reverse
      else readSextets? found (fill + 1) rest
    else match sextet? c with
      | some n => readSextets? (n :: found) 0 rest
      | none => readSextets? found fill rest

/-- Bytes as the numbers of six bits in which they are written. -/
def readBinary (text : Text) : Except Fault Value :=
  if text.any (0x7F < ·) then .error .construction
  else match readSextets? [] 0 text with
    | some sextets => .ok (.tuple (sextets.map fun n => .int (n : Nat)))
    | none => .error .construction

def readTruth (text : Text) : Except Fault Value :=
  match Tag.truthWords.lookup (Text.lowerCase text) with
  | some b => .ok (.bool b)
  | none => .error (.truth (Text.lowerCase text))

def readMoment (text : Text) : Except Fault Value :=
  match Stamp.read? (Tag.withoutNewline text) with
  | some stamp => (stamp.moment.mapError .moment).map .moment
  | none => .error .noMoment

/-- What a text stands for under a tag. -/
def Tag.read (tag : Tag) (text : Text) : Except Fault Value :=
  match tag with
  | .null => .ok .none
  | .bool => readTruth text
  | .integer => (readInteger text).map .int
  | .real => (readReal text).map .float
  | .moment => readMoment text
  | .text => .ok (.text text)
  | .bytes => readBinary text
  | _ => .error .construction

end Phrasebook.Yaml
