import Phrasebook.Number.Scientific
import Phrasebook.Text.Letter
import Phrasebook.Text.QuotedString

/-! What the document formats have in common: their characters and ends of lines, the numbers that
dates and times are made of, and the escapes between double quotes. -/

namespace Phrasebook.Document

open Text (isAsciiDigit isAsciiLetter)

/-- The blank and the tab. -/
def isBlank (c : Nat) : Bool := c == ' '.toNat || c == '\t'.toNat

/-- Characters of names without quotes. -/
def isBare (c : Nat) : Bool :=
  isAsciiDigit c || isAsciiLetter c || c == '_'.toNat || c == '-'.toNat

/-- Every end of line as one line feed. -/
def universalNewlines : Text → Text
  | [] => []
  | c :: rest =>
    if c = '\r'.toNat then
      match rest with
      | [] => ['\n'.toNat]
      | d :: behind =>
        if d = '\n'.toNat then '\n'.toNat :: universalNewlines behind
        else '\n'.toNat :: universalNewlines (d :: behind)
    else c :: universalNewlines rest

/-- The number of at least `least` and at most `most` digits at the start of a text, and what follows
them. -/
def number? (least most : Nat) (text : Text) : Option (Nat × Text) :=
  let digits := (text.take most).takeWhile isAsciiDigit
  if least ≤ digits.length then some (Scientific.ofDigits digits, text.drop digits.length) else none

/-- The microseconds that the digits behind a point write; only the first six count. -/
def microseconds (digits : Text) : Nat :=
  let kept := digits.take 6
  Scientific.ofDigits kept * Nat.pow 10 (6 - kept.length)

/-- The characters that letters name, and how many digits other letters announce. -/
structure Escapes where
  named : List (Nat × Nat)
  digitCounts : List (Nat × Nat)

namespace Escapes

/-- The number that exactly `count` hexadecimal digits write, and what follows them. -/
def hexNumber? (count : Nat) (text : Text) : Option (Nat × Text) :=
  match (text.take count).mapM QuotedString.hexValue? with
  | some digits =>
    if digits.length = count then some (Digits.toNat 16 digits, text.drop count) else none
  | none => none

/-- The number of the character that stands behind a backslash, and what follows. -/
def read? (e : Escapes) (text : Text) : Option (Nat × Text) :=
  match text with
  | [] => none
  | letter :: rest =>
    match e.named.lookup letter, e.digitCounts.lookup letter with
    | some c, _ => some (c, rest)
    | none, some count => hexNumber? count rest
    | none, none => none

theorem length_lt_of_read? {e : Escapes} {text rest : Text} {c : Nat}
    (h : e.read? text = some (c, rest)) : rest.length < text.length := by
  cases text with
  | nil => cases h
  | cons letter behind =>
    simp only [read?] at h
    split at h
    · cases h
      simp
    · simp only [hexNumber?] at h
      split at h
      · split at h
        · cases h
          simp only [List.length_drop, List.length_cons]
          omega
        · cases h
      · cases h
    · cases h

end Escapes

end Phrasebook.Document
