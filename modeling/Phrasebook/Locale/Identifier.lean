import Phrasebook.Text.Letter
import Phrasebook.Text.LowerCase
import Phrasebook.Text.Quoted

/-! Locale identifiers: a language, and after it a script, a territory, a variant and a modifier, of
which any can be missing. -/

namespace Phrasebook.Locale

open Text (lit isLetter isAsciiLetter isAsciiDigit asciiUpper asciiLower)

/-- Why an identifier names no locale. -/
inductive Fault where
  | empty
  | lettersExpected (language : Text)
  | invalid (identifier : Text)
  | unknown (identifier : Text)
  deriving DecidableEq

/-- The parts of an identifier; one that is missing is empty. -/
structure Identifier where
  language : Text
  script : Text
  territory : Text
  variant : Text
  modifier : Text
  deriving DecidableEq

namespace Identifier

/-- Four letters. -/
def isScript (part : Text) : Bool := part.length == 4 && part.all isAsciiLetter

/-- Two letters or three digits. -/
def isTerritory (part : Text) : Bool :=
  (part.length == 2 && part.all isAsciiLetter) || (part.length == 3 && part.all isAsciiDigit)

/-- Four characters that begin with a digit, or more of them that begin with a letter. -/
def isVariant (part : Text) : Bool :=
  (part.length == 4 && part.head?.any isAsciiDigit) ||
    (5 ≤ part.length && part.head?.any isAsciiLetter)

/-- The first part, if it fits, and the parts behind it. -/
def takePart (fits : Text → Bool) : List Text → Text × List Text
  | [] => ([], [])
  | part :: parts => if fits part then (part, parts) else ([], part :: parts)

def titleCase : Text → Text
  | [] => []
  | c :: rest => asciiUpper [c] ++ asciiLower rest

/-- What stands before the first `mark`, and what stands behind it. -/
def cutAt (mark : Nat) (text : Text) : Text × Text :=
  (text.takeWhile (· != mark), (text.dropWhile (· != mark)).drop 1)

/-- The identifier that a text writes, with low lines between the parts.  A point begins the name of
an encoding, which does not matter, and an at sign begins the modifier. -/
def parse (text : Text) : Except Fault Identifier :=
  let (unmodified, modifier) := cutAt '@'.toNat text
  let (written, _) := cutAt '.'.toNat unmodified
  let parts := Text.split '_'.toNat written
  let language := Text.lowerCase (parts.headD [])
  let (script, parts) := takePart isScript (parts.drop 1)
  let (territory, parts) := takePart isTerritory parts
  let (variant, parts) := takePart isVariant parts
  if text = [] then .error .empty
  else if language = [] ∨ !language.all isLetter then .error (.lettersExpected language)
  else if parts ≠ [] then .error (.invalid written)
  else .ok ⟨language, titleCase script, asciiUpper territory, asciiUpper variant, modifier⟩

/-- The identifier without its modifier. -/
def core (id : Identifier) : Text :=
  ['_'.toNat].intercalate
    ([id.language, id.script, id.territory, id.variant].filter fun part => !part.isEmpty)

/-- The modifier behind its at sign, if there is one. -/
def modifierText (id : Identifier) : Text :=
  if id.modifier = [] then [] else '@'.toNat :: id.modifier

def text (id : Identifier) : Text := id.core ++ id.modifierText

end Identifier

def Fault.message : Fault → Text
  | .empty =>
    lit "Empty locale identifier value: ''\n\nIf you didn't explicitly pass an empty value to a " ++
      lit "Babel function, this could be caused by there being no suitable locale environment " ++
      lit "variables for the API you tried to use."
  | .lettersExpected language => lit "expected only letters, got " ++ Text.quoted language
  | .invalid identifier => Text.quoted identifier ++ lit " is not a valid locale identifier"
  | .unknown identifier => lit "unknown locale '" ++ identifier ++ lit "'"

end Phrasebook.Locale
