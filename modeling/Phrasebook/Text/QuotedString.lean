import Phrasebook.Text.Basic

/-! Strings between double quotes, with backslash escapes for single characters and for the 16-bit
units of a character. -/

namespace Phrasebook.QuotedString

open Text (onto onto_eq_ok_iff)

/-- One element of a string: a character that stands for itself, a backslash with a letter, or a
backslash with `u` and four hexadecimal digits. -/
inductive Item where
  | plain (c : Nat)
  | escape (letter : Nat)
  | unit (a b c d : Nat)
  deriving DecidableEq

/-- Why no string can be read. -/
inductive Fault where
  | unterminated
  | invalidEscape (letter : Option Nat)
  | invalidUnit
  deriving DecidableEq

/-- The character that a backslash and a letter stand for. -/
def escapes : List (Nat × Nat) := [
  ('"'.toNat, '"'.toNat), ('\\'.toNat, '\\'.toNat), ('/'.toNat, '/'.toNat), ('b'.toNat, 0x8),
  ('f'.toNat, 0xC), ('n'.toNat, 0xA), ('r'.toNat, 0xD), ('t'.toNat, 0x9)]

/-- The value of a hexadecimal digit in either case. -/
def hexValue? (c : Nat) : Option Nat :=
  if '0'.toNat ≤ c ∧ c ≤ '9'.toNat then some (c - '0'.toNat)
  else if 'a'.toNat ≤ c ∧ c ≤ 'f'.toNat then some (c - 'a'.toNat + 10)
  else if 'A'.toNat ≤ c ∧ c ≤ 'F'.toNat then some (c - 'A'.toNat + 10)
  else none

def isHex (c : Nat) : Bool := (hexValue? c).isSome

/-- The number that four hexadecimal digits write. -/
def unitValue (a b c d : Nat) : Nat :=
  [a, b, c, d].foldl (fun n digit => n * 16 + (hexValue? digit).getD 0) 0

def isHighSurrogate (u : Nat) : Bool := 0xD800 ≤ u && u ≤ 0xDBFF

def isLowSurrogate (u : Nat) : Bool := 0xDC00 ≤ u && u ≤ 0xDFFF

/-- The code point that a pair of surrogates stands for. -/
def pairValue (high low : Nat) : Nat := 0x10000 + (high - 0xD800) * 0x400 + (low - 0xDC00)

/-- The code point of one item alone. -/
def Item.value : Item → Nat
  | .plain c => c
  | .escape letter => (escapes.lookup letter).getD letter
  | .unit a b c d => unitValue a b c d

/-- The code point of two items, if they are the escaped halves of a surrogate pair. -/
def Item.pair? : Item → Item → Option Nat
  | .unit a b c d, .unit a' b' c' d' =>
    let high := unitValue a b c d
    let low := unitValue a' b' c' d'
    if isHighSurrogate high && isLowSurrogate low then some (pairValue high low) else none
  | _, _ => none

/-- The text that items stand for. -/
def decode : List Item → Text
  | [] => []
  | [item] => [item.value]
  | first :: second :: items =>
    match first.pair? second with
    | some c => c :: decode items
    | none => first.value :: decode (second :: items)

/-- A fault and the text that is left where it was found. -/
abbrev Result (α : Type) := Except (Fault × Text) (α × Text)

/-- The items up to the closing quotation mark, and what follows it.  A letter that no escape has is
faulted behind the letter, bad digits of a unit before the digits. -/
def readItems : Text → Result (List Item)
  | [] => .error (.unterminated, [])
  | c :: rest =>
    if c = '"'.toNat then .ok ([], rest)
    else if c ≠ '\\'.toNat then onto (.plain c) (readItems rest)
    else match rest with
      | [] => .error (.invalidEscape none, [])
      | letter :: rest =>
        if (escapes.lookup letter).isSome then onto (.escape letter) (readItems rest)
        else if letter = 'u'.toNat then
          match rest with
          | a :: b :: c :: d :: behind =>
            if isHex a && isHex b && isHex c && isHex d then
              onto (.unit a b c d) (readItems behind)
            else .error (.invalidUnit, rest)
          | _ => .error (.invalidUnit, rest)
        else .error (.invalidEscape (some letter), rest)

theorem length_lt_of_readItems {text rest : Text} {items : List Item}
    (h : readItems text = .ok (items, rest)) : rest.length < text.length := by
  fun_induction readItems text generalizing items with
  | case1 => cases h
  | case2 =>
    cases h
    simp
  | case3 _ _ _ _ ih =>
    obtain ⟨items', hr, _⟩ := onto_eq_ok_iff.mp h
    have := ih hr
    simp only [List.length_cons]
    omega
  | case4 => cases h
  | case5 _ _ _ _ _ _ ih =>
    obtain ⟨items', hr, _⟩ := onto_eq_ok_iff.mp h
    have := ih hr
    simp only [List.length_cons]
    omega
  | case6 _ _ _ _ _ _ _ _ _ _ ih =>
    obtain ⟨items', hr, _⟩ := onto_eq_ok_iff.mp h
    have := ih hr
    simp only [List.length_cons]
    omega
  | case7 => cases h
  | case8 => cases h
  | case9 => cases h

/-- The string at the start of a text behind its opening quotation mark, and what follows it. -/
def read (text : Text) : Result Text :=
  (readItems text).map fun (items, rest) => (decode items, rest)

theorem length_lt_of_read {text rest s : Text} (h : read text = .ok (s, rest)) :
    rest.length < text.length := by
  simp only [read] at h
  cases hr : readItems text with
  | error fault =>
    rw [hr] at h
    cases h
  | ok found =>
    obtain ⟨items, rest'⟩ := found
    rw [hr] at h
    cases h
    exact length_lt_of_readItems hr

end Phrasebook.QuotedString
