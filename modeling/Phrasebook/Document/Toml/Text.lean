import Phrasebook.Document.Basic

/-! Quoted text in TOML documents: in double quotes with escapes or in single quotes without, on one
line or, between three quotes, on several. -/

namespace Phrasebook.Toml

open Text (lit onto after?)

/-- Controls, which stand in no text; the tab is none of them. -/
def isControl (c : Nat) : Bool := (c < 0x20 && c != '\t'.toNat) || c == 0x7F

/-- Characters that cannot stand for themselves in a text. -/
def isForbidden (multiline : Bool) (c : Nat) : Bool :=
  isControl c && !(multiline && c == '\n'.toNat)

def isScalarValue (c : Nat) : Bool := c < 0xD800 || (0xDFFF < c && c < 0x110000)

def escapes : Document.Escapes where
  named := [
    ('b'.toNat, 0x8), ('t'.toNat, 0x9), ('n'.toNat, 0xA), ('f'.toNat, 0xC), ('r'.toNat, 0xD),
    ('e'.toNat, 0x1B), ('"'.toNat, 0x22), ('\\'.toNat, 0x5C)]
  digitCounts := [('x'.toNat, 2), ('u'.toNat, 4), ('U'.toNat, 8)]

def isBlankOrNewline (c : Nat) : Bool := Document.isBlank c || c == '\n'.toNat

/-- What follows a backslash that ends its line: all blanks and ends of lines behind it are
skipped. -/
def continued? (text : Text) : Option Text :=
  match text.dropWhile Document.isBlank with
  | [] => none
  | c :: rest => if c = '\n'.toNat then some (rest.dropWhile isBlankOrNewline) else none

theorem length_lt_of_continued? {text rest : Text} (h : continued? text = some rest) :
    rest.length < text.length := by
  have hblank := (List.dropWhile_suffix Document.isBlank (l := text)).length_le
  simp only [continued?] at h
  split at h
  · cases h
  · next c behind hb =>
    split at h
    · cases h
      have := (List.dropWhile_suffix isBlankOrNewline (l := behind)).length_le
      rw [hb, List.length_cons] at hblank
      omega
    · cases h

/-- The quotes, of at most two, that stand before the three that close a text. -/
def surplus (quote : Nat) (behind : Text) : Text := (behind.takeWhile (· == quote)).take 2

/-- What ends a text of several lines: the quotes that still belong to it, and what follows. -/
def closed (quote : Nat) (behind : Text) : Text × Text :=
  (surplus quote behind, behind.drop (surplus quote behind).length)

/-- The text up to the closing double quotes, and what follows it. -/
def readBasic (multiline : Bool) (text : Text) : Option (Text × Text) :=
  match text with
  | [] => none
  | c :: rest =>
    if c = '"'.toNat then
      if multiline then
        match after? (lit "\"\"") rest with
        | some behind => some (closed c behind)
        | none => onto c (readBasic multiline rest)
      else some ([], rest)
    else if c = '\\'.toNat then
      match _hc : if multiline then continued? rest else none with
      | some behind => readBasic multiline behind
      | none =>
        match _he : escapes.read? rest with
        | some (code, behind) =>
          if isScalarValue code then onto code (readBasic multiline behind) else none
        | none => none
    else if isForbidden multiline c then none
    else onto c (readBasic multiline rest)
termination_by text.length
decreasing_by
  · simp
  · split at _hc
    · have := length_lt_of_continued? _hc
      simp only [List.length_cons]
      omega
    · cases _hc
  · have := Document.Escapes.length_lt_of_read? _he
    simp only [List.length_cons]
    omega
  · simp

/-- The text up to the closing single quotes, and what follows it. -/
def readLiteral (multiline : Bool) : Text → Option (Text × Text)
  | [] => none
  | c :: rest =>
    if c = '\''.toNat then
      if multiline then
        match after? (lit "''") rest with
        | some behind => some (closed c behind)
        | none => onto c (readLiteral multiline rest)
      else some ([], rest)
    else if isForbidden multiline c then none
    else onto c (readLiteral multiline rest)

/-- A text without the line feed that it begins with, if it begins with one. -/
def behindNewline : Text → Text
  | [] => []
  | c :: rest => if c = '\n'.toNat then rest else c :: rest

/-- A quoted text on one line. -/
def readLine? : Text → Option (Text × Text)
  | [] => none
  | c :: rest =>
    if c = '"'.toNat then readBasic false rest
    else if c = '\''.toNat then readLiteral false rest
    else none

/-- A quoted text on one line or on several. -/
def readQuoted? (text : Text) : Option (Text × Text) :=
  match after? (lit "\"\"\"") text, after? (lit "'''") text with
  | some rest, _ => readBasic true (behindNewline rest)
  | none, some rest => readLiteral true (behindNewline rest)
  | none, none => readLine? text

end Phrasebook.Toml
