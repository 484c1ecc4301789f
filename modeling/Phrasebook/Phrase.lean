import Phrasebook.Locale.LeadingNumber
import Phrasebook.Text.CaseFold
import Phrasebook.Text.NormalForm.Basic

/-! Phrases: texts with the locale in which they are read. -/

namespace Phrasebook

structure Phrase where
  base : Text
  locale : Text
  deriving DecidableEq

namespace Phrase

open Text (lit asciiLower replaced)

/-- Why a phrase has no number or no normal form. -/
inductive Fault where
  | locale (fault : Locale.Fault)
  | infinite
  | unknownForm (name : Text)

/-- Languages that tell the dotted and the dotless i apart. -/
def turkicLanguages : List Text := [lit "tr", lit "az"]

/-- Whether the language of a locale identifier, in either case, is Turkic. -/
def isTurkic (locale : Text) : Bool :=
  let language := (replaced '-'.toNat '_'.toNat locale).takeWhile (· != '_'.toNat)
  turkicLanguages.contains (asciiLower language)

/-- The number that a text starts with in a locale. -/
def leadingNumber [Locale.Catalog] (text locale : Text) : Except Fault Binary64 :=
  match Locale.find locale with
  | .error fault => .error (.locale fault)
  | .ok found => .ok (found.leadingNumber text)

/-- A text in the normal form of a name. -/
def normalForm (text name : Text) : Except Fault Text :=
  match Text.NormalForm.ofName? name with
  | some form => .ok (form.apply text)
  | none => .error (.unknownForm name)

/-- The number that the phrase starts with. -/
def toFloat [Locale.Catalog] (p : Phrase) : Except Fault Binary64 := leadingNumber p.base p.locale

/-- The number that the phrase starts with, without its fraction. -/
def toInt [Locale.Catalog] (p : Phrase) : Except Fault Int := do
  match ← p.toFloat with
  | .finite negative mantissa exponent =>
    return signed negative (Scaled.wholePart 2 mantissa exponent)
  | _ => throw .infinite

def normalized (p : Phrase) (name : Text) : Except Fault Phrase :=
  (normalForm p.base name).map ({ p with base := · })

/-- The phrase with its case folded, in the Turkic way if its language asks for it or `turkic`
says so. -/
def caseFolded (p : Phrase) (turkic : Option Bool) : Phrase :=
  { p with base := Text.caseFold (turkic.getD (isTurkic p.locale)) p.base }

/-- How a phrase is made from another one. -/
inductive Derivation where
  | normalize (name : Text)
  | caseFold (turkic : Option Bool)

def derived (p : Phrase) : Derivation → Except Fault Phrase
  | .normalize name => p.normalized name
  | .caseFold turkic => .ok (p.caseFolded turkic)

/-- The base and the locale in quotes, marked as a phrase. -/
def quoted (p : Phrase) : Text :=
  lit "LocalizedString(" ++ Text.quoted p.base ++ lit ", " ++ Text.quoted p.locale ++ lit ")"

def Fault.message : Fault → Text
  | .locale fault => fault.message
  | .infinite => lit "cannot convert float infinity to integer"
  | .unknownForm name =>
    lit "Unsupported normalization form: " ++ name ++
      lit ". Supported forms: NFC, NFD, NFKC, NFKD"

end Phrase

end Phrasebook
