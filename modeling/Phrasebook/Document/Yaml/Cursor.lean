import Phrasebook.Text.Basic

/-! Places in a YAML document, and the characters that end something there.  The number 0, which no
document holds, stands for the end of the document. -/

namespace Phrasebook.Yaml

/-- Characters that end a line. -/
def isBreak (c : Nat) : Bool := c == '\n'.toNat || c == 0x85 || c == 0x2028 || c == 0x2029

def endsLine (c : Nat) : Bool := c == 0 || isBreak c

/-- The end of a line or a blank. -/
def endsTag (c : Nat) : Bool := endsLine c || c == ' '.toNat

/-- The end of a line, a blank or a tab. -/
def endsWord (c : Nat) : Bool := endsTag c || c == '\t'.toNat

/-- What is left of a document, how many characters stand before it, and its line and column. -/
structure Cursor where
  rest : Text
  index : Nat
  line : Nat
  column : Nat

namespace Cursor

def start (text : Text) : Cursor := ⟨text, 0, 0, 0⟩

/-- The next character. -/
def peek (c : Cursor) : Nat := c.rest.headD 0

/-- The character that stands `n` behind the next one. -/
def peekAt (c : Cursor) (n : Nat) : Nat := (c.rest.drop n).headD 0

/-- The place behind the next character.  A byte-order mark has no width. -/
def next (c : Cursor) : Cursor :=
  match c.rest with
  | [] => c
  | d :: rest =>
    if isBreak d then ⟨rest, c.index + 1, c.line + 1, 0⟩
    else ⟨rest, c.index + 1, c.line, if d = 0xFEFF then c.column else c.column + 1⟩

/-- The place behind the next `n` characters. -/
def advance (c : Cursor) : Nat → Cursor
  | 0 => c
  | n + 1 => c.next.advance n

/-- The characters from here on that are of a kind. -/
def run (c : Cursor) (p : Nat → Bool) : Text := c.rest.takeWhile p

/-- The place behind the characters that are of a kind. -/
def skip (c : Cursor) (p : Nat → Bool) : Cursor := c.advance (c.run p).length

def skipBlanks (c : Cursor) : Cursor := c.skip (· == ' '.toNat)

/-- The place behind a comment, if one begins here. -/
def skipComment (c : Cursor) : Cursor :=
  if c.peek = '#'.toNat then c.skip (!endsLine ·) else c

/-- The end of a line that stands here, as text has it, and the place behind it. -/
def lineBreak? (c : Cursor) : Option (Nat × Cursor) :=
  if isBreak c.peek then
    some (if c.peek = 0x85 then '\n'.toNat else c.peek, c.next)
  else none

/-- Whether three equal marks stand here that end at a blank. -/
def isMark (c : Cursor) (mark : String) : Bool :=
  match Text.after? (Text.lit mark) c.rest with
  | some rest => endsWord (rest.headD 0)
  | none => false

/-- Whether a mark that begins or ends a document stands here. -/
def isSeparator (c : Cursor) : Bool := c.isMark "---" || c.isMark "..."

end Cursor

/-- What an end of a line and the empty lines behind it stand for inside a text: a single end of a
line is a blank. -/
def folded (b : Nat) (breaks : Text) : Text :=
  if b ≠ '\n'.toNat then b :: breaks
  else if breaks = [] then [' '.toNat]
  else breaks

end Phrasebook.Yaml
