import Phrasebook.Document.Basic
import Phrasebook.Document.Yaml.Cursor
import Phrasebook.Document.Yaml.Fault
import Phrasebook.Text.Digit

/-! Scalars as they stand in a YAML document: plain, in quotes, or in blocks of lines. -/

namespace Phrasebook.Yaml

open Document (isBlank)
open Text (lit)

/-- The longest run of characters of a plain scalar.  A colon ends it before a blank; in brackets, the
marks of a collection do. -/
def plainRun (flow : Bool) : Text → Text
  | [] => []
  | c :: rest =>
    let d := rest.headD 0
    let colon := c == ':'.toNat && (endsWord d || (flow && (lit ",[]\x7b\x7d").contains d))
    if endsWord c || colon || (flow && (lit ",?[]\x7b\x7d").contains c) then []
    else c :: plainRun flow rest

/-- The ends of lines behind a line of a plain scalar and the place behind them, unless a document
ends there. -/
def plainBreaks (bound : Nat) (c : Cursor) : Option Text × Cursor :=
  match bound, c.skipBlanks.lineBreak? with
  | bound + 1, some (b, c) =>
    if c.isSeparator then (none, c)
    else
      let (breaks, c) := plainBreaks bound c
      (breaks.map (b :: ·), c)
  | _, _ => (some [], c.skipBlanks)

/-- What stands between two runs of a plain scalar, unless the scalar ends, and the place behind it.
With it comes whether that place is on a new line. -/
def plainSpaces (c : Cursor) : Text × Cursor × Bool :=
  let blanks := c.run (· == ' '.toNat)
  match c.skipBlanks.lineBreak? with
  | none => (blanks, c.skipBlanks, false)
  | some (b, c) =>
    if c.isSeparator then ([], c, true)
    else match plainBreaks c.rest.length c with
      | (none, c) => ([], c, true)
      | (some breaks, c) => (folded b breaks, c, true)

/-- A plain scalar behind the text that is read, the place behind it, and whether that place is on a
new line.  Its lines, of which there are at most `bound`, must be indented to `indent`. -/
def readPlain (flow : Bool) (indent : Int) (bound : Nat) (text : Text) (c : Cursor) (fresh : Bool) :
    Text × Cursor × Bool :=
  match bound, plainRun flow c.rest with
  | 0, _ => ([], c, fresh)
  | _, [] => ([], c, fresh)
  | bound + 1, run =>
    if c.peek = '#'.toNat then ([], c, fresh)
    else
      let (spaces, behind, fresh) := plainSpaces (c.advance run.length)
      let ended := spaces.isEmpty || behind.peek == '#'.toNat || (!flow && behind.column < indent)
      if ended then (text ++ run, behind, fresh)
      else
        let (more, c, fresh) := readPlain flow indent bound spaces behind fresh
        (text ++ run ++ more, c, fresh)

def escapes : Document.Escapes where
  named := [
    ('0'.toNat, 0x0), ('a'.toNat, 0x7), ('b'.toNat, 0x8), ('t'.toNat, 0x9), ('\t'.toNat, 0x9),
    ('n'.toNat, 0xA), ('v'.toNat, 0xB), ('f'.toNat, 0xC), ('r'.toNat, 0xD), ('e'.toNat, 0x1B),
    (' '.toNat, 0x20), ('"'.toNat, 0x22), ('\\'.toNat, 0x5C), ('/'.toNat, 0x2F), ('N'.toNat, 0x85),
    ('_'.toNat, 0xA0), ('L'.toNat, 0x2028), ('P'.toNat, 0x2029)]
  digitCounts := [('x'.toNat, 2), ('u'.toNat, 4), ('U'.toNat, 8)]

/-- The ends of lines inside quotes and the place behind them and the blanks; no document may end
there. -/
def quotedBreaks (bound : Nat) (c : Cursor) : Except Fault (Text × Cursor) :=
  if c.isSeparator then .error .token
  else
    let behind := c.skip isBlank
    match bound, behind.lineBreak? with
    | bound + 1, some (b, c) => Text.onto b (quotedBreaks bound c)
    | _, _ => .ok ([], behind)

/-- What the end of a line inside quotes stands for, with the lines that are skipped behind it. -/
def quotedFold (b : Nat) (c : Cursor) : Except Fault (Text × Cursor) :=
  (quotedBreaks c.rest.length c).map fun (breaks, c) => (folded b breaks, c)

/-- A backslash that ends its line, or one with the character that it stands for. -/
def readEscape (c : Cursor) : Except Fault (Text × Cursor) :=
  match c.lineBreak? with
  | some (_, c) => quotedBreaks c.rest.length c
  | none =>
    match escapes.read? c.rest with
    | none => .error .token
    | some (code, rest) =>
      if code < 0x110000 then .ok ([code], c.advance (c.rest.length - rest.length))
      else .error (.codePoint code)

/-- What the next characters between quotation marks stand for and the place behind them, or nothing
if the closing mark is next. -/
def quotedPart (double : Bool) (c : Cursor) : Except Fault (Option (Text × Cursor)) :=
  let mark := if double then '"'.toNat else '\''.toNat
  if c.peek = 0 then .error .token
  else if c.peek = mark then
    if !double && c.peekAt 1 == mark then .ok (some ([mark], c.advance 2)) else .ok none
  else if double && c.peek == '\\'.toNat then some <$> readEscape c.next
  else match (c.skip isBlank).lineBreak? with
    | some (b, c) => some <$> quotedFold b c
    | none =>
      if isBlank c.peek then .ok (some (c.run isBlank, c.skip isBlank))
      else .ok (some ([c.peek], c.next))

/-- The text up to the closing quotation mark in at most `bound` parts, and the place behind it. -/
def readQuoted (double : Bool) (bound : Nat) (c : Cursor) : Except Fault (Text × Cursor) :=
  match bound with
  | 0 => .error .token
  | bound + 1 => do
    match ← quotedPart double c with
    | none => return ([], c.next)
    | some (part, c) =>
      let (more, c) ← readQuoted double bound c
      return (part ++ more, c)

/-- How the end of a block is kept: without its last ends of lines, with one, or with all. -/
inductive Chomping where
  | strip
  | clip
  | keep
  deriving DecidableEq

def chomping? (c : Nat) : Option Chomping :=
  if c = '+'.toNat then some .keep else if c = '-'.toNat then some .strip else none

def readChomping (c : Cursor) : Option Chomping × Cursor :=
  match chomping? c.peek with
  | some chomping => (some chomping, c.next)
  | none => (none, c)

/-- A digit that says how much deeper than its surroundings a block is indented. -/
def readIncrement (c : Cursor) : Except Fault (Option Nat × Cursor) :=
  if Text.isAsciiDigit c.peek then
    if c.peek = '0'.toNat then .error .token else .ok (some (c.peek - '0'.toNat), c.next)
  else .ok (none, c)

/-- The place behind this line, on which only blanks and a comment may be left. -/
def leaveLine (c : Cursor) : Except Fault Cursor :=
  let c := c.skipBlanks.skipComment
  if endsLine c.peek then .ok (c.lineBreak?.elim c Prod.snd) else .error .token

/-- What stands behind the mark of a block, up to the end of the line. -/
def readHeader (c : Cursor) : Except Fault (Chomping × Option Nat × Cursor) := do
  let (first, c) := readChomping c
  let (increment, c) ← readIncrement c
  let (second, c) := if first.isNone && increment.isSome then readChomping c else (none, c)
  if !endsTag c.peek then throw .token
  return ((first.orElse fun _ => second).getD .clip, increment, ← leaveLine c)

/-- Empty lines before the first line of a block, the greatest indentation there, and the place
behind it. -/
def leadingBreaks (bound : Nat) (c : Cursor) : Text × Nat × Cursor :=
  let behind := c.skipBlanks
  match bound, behind.lineBreak? with
  | bound + 1, some (b, next) =>
    let (breaks, widest, c) := leadingBreaks bound next
    (b :: breaks, max widest behind.column, c)
  | _, _ => ([], behind.column, behind)

/-- The place behind the blanks up to a column. -/
def skipIndent (indent : Nat) (c : Cursor) : Cursor :=
  c.advance (min (indent - c.column) (c.run (· == ' '.toNat)).length)

/-- Empty lines of a block, and the place behind them at its indentation or before. -/
def blockBreaks (indent bound : Nat) (c : Cursor) : Text × Cursor :=
  let behind := skipIndent indent c
  match bound, behind.lineBreak? with
  | bound + 1, some (b, c) =>
    let (breaks, c) := blockBreaks indent bound c
    (b :: breaks, c)
  | _, _ => ([], behind)

/-- The lines of a block from the first that is not empty, of which there are at most `bound`, and the
place behind them.  In a folded block a single end of a line between lines without further indentation
is a blank. -/
def readLines (isFolded : Bool) (chomping : Chomping) (indent bound : Nat) (c : Cursor) :
    Text × Cursor :=
  match bound with
  | 0 => ([], c)
  | bound + 1 =>
    let line := c.run (!endsLine ·)
    let flush := !isBlank c.peek
    let behind := c.advance line.length
    let (ending, behind) := match behind.lineBreak? with
      | some (b, c) => ([b], c)
      | none => ([], behind)
    let (breaks, next) := blockBreaks indent behind.rest.length behind
    if next.column = indent && next.peek != 0 then
      let (more, c) := readLines isFolded chomping indent bound next
      let joins := isFolded && ending == ['\n'.toNat] && flush && !isBlank next.peek
      let between := if !joins then ending else if breaks = [] then [' '.toNat] else []
      (line ++ between ++ breaks ++ more, c)
    else match chomping with
      | .strip => (line, next)
      | .clip => (line ++ ending, next)
      | .keep => (line ++ ending ++ breaks, next)

/-- A block behind its mark, and the place behind it.  It is indented deeper than its surroundings:
to its first line that is not empty, if the mark does not say how far. -/
def readBlock (isFolded : Bool) (surroundings : Int) (c : Cursor) : Except Fault (Text × Cursor) := do
  let (chomping, increment, c) ← readHeader c
  let least := max (surroundings + 1).toNat 1
  let (breaks, indent, c) := match increment with
    | some n =>
      let indent := least + n - 1
      let (breaks, c) := blockBreaks indent c.rest.length c
      (breaks, indent, c)
    | none =>
      let (breaks, widest, c) := leadingBreaks c.rest.length c
      (breaks, max least widest, c)
  if c.column = indent && c.peek != 0 then
    let (lines, c) := readLines isFolded chomping indent c.rest.length c
    return (breaks ++ lines, c)
  else return (if chomping = .keep then breaks else [], c)

end Phrasebook.Yaml
