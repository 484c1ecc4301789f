import Phrasebook.Text.QuotedString
import Phrasebook.Text.Whitespace
import Phrasebook.Value

/-! Inline plurals: in braces, one count key with a map from plural categories to templates, both
written in double quotes. -/

namespace Phrasebook

/-- A count key, and templates by category in the order of the first mention of each category. -/
structure InlinePlural where
  countKey : Text
  categories : List (Text × Text)
  deriving DecidableEq

namespace InlinePlural

/-- What is wrong with a body. -/
inductive Reason where
  | expected (c : Nat)
  | missingCountKey
  | secondCountKey
  | stringExpected
  | templateNotString (tag : Text)
  | string (fault : QuotedString.Fault)
  | trailingContent
  deriving DecidableEq

/-- A body that is no inline plural, with the place where that shows. -/
structure Malformed where
  body : Text
  offset : Nat
  reason : Reason
  deriving DecidableEq

/-- A reason and the text that is left where it was found. -/
abbrev Fault := Reason × Text

open Text (skipSpaces length_skipSpaces_le)

/-- What follows the next mark, which must be `c`. -/
def expect (c : Nat) (text : Text) : Except Fault Text :=
  match skipSpaces text with
  | [] => .error (.expected c, [])
  | d :: rest => if d = c then .ok rest else .error (.expected c, d :: rest)

theorem length_lt_of_expect {c : Nat} {text rest : Text} (h : expect c text = .ok rest) :
    rest.length < text.length := by
  have hs := length_skipSpaces_le text
  simp only [expect] at h
  split at h
  · cases h
  · next d rest' ht =>
    split at h
    · cases h
      rw [ht] at hs
      exact hs
    · cases h

def readString (text : Text) : Except Fault (Text × Text) :=
  match skipSpaces text with
  | [] => .error (.stringExpected, [])
  | d :: rest =>
    if d = '"'.toNat then
      (QuotedString.read rest).mapError fun (fault, left) => (.string fault, left)
    else .error (.stringExpected, d :: rest)

theorem length_lt_of_readString {text rest s : Text} (h : readString text = .ok (s, rest)) :
    rest.length < text.length := by
  have hs := length_skipSpaces_le text
  simp only [readString] at h
  split at h
  · cases h
  · next d rest' ht =>
    split at h
    · cases hr : QuotedString.read rest' with
      | error fault =>
        rw [hr] at h
        cases h
      | ok found =>
        rw [hr] at h
        cases h
        have := QuotedString.length_lt_of_read hr
        rw [ht, List.length_cons] at hs
        omega
    · cases h

/-- A category, a colon and a template. -/
def readMember (text : Text) : Except Fault ((Text × Text) × Text) := do
  let (tag, rest) ← readString text
  let rest ← expect ':'.toNat rest
  if (skipSpaces rest).head? = some '"'.toNat then
    let (template, rest) ← readString rest
    return ((tag, template), rest)
  else throw (.templateNotString tag, skipSpaces rest)

theorem length_lt_of_readMember {text rest : Text} {member : Text × Text}
    (h : readMember text = .ok (member, rest)) : rest.length < text.length := by
  simp only [readMember, bind, Except.bind] at h
  split at h
  · cases h
  · next _ found hfound =>
    obtain ⟨tag, rest₁⟩ := found
    split at h
    · cases h
    · next _ rest₂ hcolon =>
      split at h
      · split at h
        · cases h
        · next _ found' hfound' =>
          obtain ⟨template, rest₃⟩ := found'
          cases h
          have h₁ : rest₁.length < text.length := length_lt_of_readString hfound
          have h₂ : rest₂.length < rest₁.length := length_lt_of_expect hcolon
          have h₃ : rest₃.length < rest₂.length := length_lt_of_readString hfound'
          exact Nat.lt_trans h₃ (Nat.lt_trans h₂ h₁)
      · cases h

/-- Members with commas between them, up to a closing brace. -/
def readMembers (text : Text) : Except Fault (List (Text × Text) × Text) :=
  match _h : readMember text with
  | .error fault => .error fault
  | .ok (member, rest) =>
    match _hc : skipSpaces rest with
    | [] => .error (.expected '}'.toNat, [])
    | c :: after =>
      if c = ','.toNat then Text.onto member (readMembers after)
      else if c = '}'.toNat then .ok ([member], after)
      else .error (.expected '}'.toNat, c :: after)
termination_by text.length
decreasing_by
  have := length_lt_of_readMember _h
  have := length_skipSpaces_le rest
  rw [_hc, List.length_cons] at this
  omega

/-- The members in braces, which may be none. -/
def readCategories (text : Text) : Except Fault (List (Text × Text) × Text) := do
  let rest ← expect '{'.toNat text
  match skipSpaces rest with
  | [] => readMembers []
  | c :: after => if c = '}'.toNat then return ([], after) else readMembers (c :: after)

/-- The template bound to a category; a category bound before keeps its place. -/
def put (categories : List (Text × Text)) (member : Text × Text) : List (Text × Text) :=
  match categories with
  | [] => [member]
  | (tag, template) :: rest =>
    if tag = member.1 then (tag, member.2) :: rest else (tag, template) :: put rest member

/-- The closing brace behind the categories. -/
def readEnd (text : Text) : Except Fault Text :=
  if (skipSpaces text).head? = some ','.toNat then .error (.secondCountKey, skipSpaces text)
  else expect '}'.toNat text

def readRoot (text : Text) : Except Fault (InlinePlural × Text) := do
  let rest ← expect '{'.toNat text
  if (skipSpaces rest).head? = some '}'.toNat then throw (.missingCountKey, skipSpaces rest)
  let (countKey, rest) ← readString rest
  let rest ← expect ':'.toNat rest
  let (members, rest) ← readCategories rest
  let rest ← readEnd rest
  return (⟨countKey, members.foldl put []⟩, rest)

/-- The inline plural that a whole text is, with spaces around it. -/
def readWhole (text : Text) : Except Fault InlinePlural := do
  let (plural, rest) ← readRoot text
  match skipSpaces rest with
  | [] => return plural
  | c :: rest => throw (.trailingContent, c :: rest)

/-- The offset of a fault.  An escape is faulted behind its letter, so one that the end of the body
cuts off is faulted one past the end. -/
def offset (body : Text) : Fault → Nat
  | (.string (.invalidEscape none), _) => body.length + 1
  | (_, left) => body.length - left.length

def parse (body : Text) : Except Malformed InlinePlural :=
  (readWhole body).mapError fun fault => ⟨body, offset body fault, fault.1⟩

/-- The categories as a mapping from text to text. -/
def categoryMap (plural : InlinePlural) : Value :=
  .map (plural.categories.map fun (tag, template) => (.text tag, .text template))

open Text (lit quoted)

def Reason.message : Reason → Text
  | .expected c => lit "expected " ++ quoted [c]
  | .missingCountKey => lit "missing count key"
  | .secondCountKey => lit "more than one count key"
  | .stringExpected => lit "expected a string"
  | .templateNotString tag =>
    lit "template for category " ++ quoted tag ++ lit " must be a string"
  | .string .unterminated => lit "unterminated string"
  | .string (.invalidEscape letter) => lit "invalid escape \\" ++ letter.toList
  | .string .invalidUnit => lit "invalid \\u escape"
  | .trailingContent => lit "unexpected trailing content"

def Malformed.message (e : Malformed) : Text :=
  lit "Malformed inline pluralization " ++ quoted e.body ++ lit " at offset " ++
    Text.numeral 10 e.offset ++ lit ": " ++ e.reason.message

end InlinePlural

end Phrasebook
