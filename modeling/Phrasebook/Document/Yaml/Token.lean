import Phrasebook.Document.Yaml.Scalar
import Phrasebook.Number.Scientific
import Phrasebook.Text.Utf8

/-! Tokens of a YAML document, and how those are read that hold a name: directives, anchors, aliases
and tags. -/

namespace Phrasebook.Yaml

open Text (lit isAsciiDigit isAsciiLetter onto)
open Document (isBare)

/-- What a line says about the document behind it: the version, or what the handle of a tag stands
for. -/
inductive Directive where
  | version (major : Nat)
  | handle (name meaning : Text)
  | other
  deriving DecidableEq

/-- A block is a collection that is laid out by lines; a flow stands in brackets.  The handle of a tag
says how its name begins. -/
inductive Token where
  | streamEnd
  | directive (d : Directive)
  | documentStart
  | documentEnd
  | blockSequence
  | blockMapping
  | blockEnd
  | flowSequence
  | flowSequenceEnd
  | flowMapping
  | flowMappingEnd
  | flowEntry
  | blockEntry
  | key
  | value
  | anchor (name : Text)
  | alias (name : Text)
  | tag (handle : Option Text) (name : Text)
  | scalar (text : Text) (plain : Bool)
  deriving DecidableEq

/-- A name behind a mark, and the place behind it. -/
def readName (c : Cursor) : Except Fault (Text × Cursor) :=
  let name := c.next.run isBare
  let c := c.next.skip isBare
  if name ≠ [] && (endsWord c.peek || (lit "?:,]\x7d%@\x60").contains c.peek) then .ok (name, c)
  else .error .token

/-- Bytes of two hexadecimal digits behind a mark each, of which there are at most `bound`, and the
place behind them. -/
def readBytes (bound : Nat) (c : Cursor) : Except Fault (List Nat × Cursor) :=
  match bound with
  | 0 => .ok ([], c)
  | bound + 1 =>
    if c.peek = '%'.toNat then
      match Document.Escapes.hexNumber? 2 c.next.rest with
      | some (byte, _) => onto byte (readBytes bound (c.advance 3))
      | none => .error .token
    else .ok ([], c)

/-- Characters of which the names of tags are made. -/
def isTagCharacter (c : Nat) : Bool :=
  isAsciiDigit c || isAsciiLetter c || (lit "-;/?:@&=+$,_.!~*'()[]").contains c

/-- The name of a tag in at most `bound` parts, and the place behind it. -/
def readTagParts (bound : Nat) (c : Cursor) : Except Fault (Text × Cursor) :=
  match bound with
  | 0 => .ok ([], c)
  | bound + 1 =>
    if c.peek = '%'.toNat then do
      let (bytes, c) ← readBytes c.rest.length c
      let part ← (Utf8.decode bytes).mapError fun _ => Fault.token
      let (more, c) ← readTagParts bound c
      return (part ++ more, c)
    else if isTagCharacter c.peek then onto c.peek (readTagParts bound c.next)
    else .ok ([], c)

/-- The name of a tag, which is not empty, and the place behind it. -/
def readTagName (c : Cursor) : Except Fault (Text × Cursor) := do
  match ← readTagParts c.rest.length c with
  | ([], _) => throw .token
  | found => return found

/-- The handle of a tag: an exclamation mark, or a name between two of them. -/
def readHandle (c : Cursor) : Except Fault (Text × Cursor) :=
  if c.peek ≠ '!'.toNat then .error .token
  else if c.peekAt 1 = ' '.toNat then .ok ([c.peek], c.next)
  else
    let name := c.next.run isBare
    let behind := c.next.skip isBare
    if behind.peek = c.peek then .ok (c.peek :: name ++ [c.peek], behind.next) else .error .token

/-- A tag with its name in angle brackets, one of an exclamation mark alone, or one with a handle. -/
def readTag (c : Cursor) : Except Fault (Token × Cursor) := do
  let second := c.peekAt 1
  let (tag, c) ←
    if second = '<'.toNat then do
      let (name, c) ← readTagName (c.advance 2)
      if c.peek ≠ '>'.toNat then throw .token
      pure (Token.tag none name, c.next)
    else if endsWord second then pure (.tag none (lit "!"), c.next)
    else do
      let isNamed := (c.next.run (!endsTag ·)).contains '!'.toNat
      let (handle, c) ← if isNamed then readHandle c else pure (lit "!", c.next)
      let (name, c) ← readTagName c
      pure (.tag (some handle) name, c)
  if endsTag c.peek then return (tag, c) else throw .token

/-- A number in decimal digits, and the place behind it. -/
def readNumber (c : Cursor) : Except Fault (Nat × Cursor) :=
  let digits := c.run isAsciiDigit
  if digits = [] then .error .token
  else if Digits.limit < digits.length then .error (.tooManyDigits digits.length)
  else .ok (Scientific.ofDigits digits, c.skip isAsciiDigit)

def readVersion (c : Cursor) : Except Fault (Directive × Cursor) := do
  let (major, c) ← readNumber c
  if c.peek ≠ '.'.toNat then throw .token
  let (_, c) ← readNumber c.next
  if endsTag c.peek then return (.version major, c) else throw .token

def readMeaning (c : Cursor) : Except Fault (Directive × Cursor) := do
  let (handle, c) ← readHandle c
  if c.peek ≠ ' '.toNat then throw .token
  let (meaning, c) ← readTagName c.skipBlanks
  if endsTag c.peek then return (.handle handle meaning, c) else throw .token

/-- A directive, which has a line of its own. -/
def readDirective (c : Cursor) : Except Fault (Token × Cursor) := do
  let name := c.next.run isBare
  let c := c.next.skip isBare
  if name = [] || !endsTag c.peek then throw .token
  let (directive, c) ←
    if name = lit "YAML" then readVersion c.skipBlanks
    else if name = lit "TAG" then readMeaning c.skipBlanks
    else pure (.other, c.skip (!endsLine ·))
  return (.directive directive, ← leaveLine c)

end Phrasebook.Yaml
