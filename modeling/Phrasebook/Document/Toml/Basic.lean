import Phrasebook.Document.Toml.Scalar
import Phrasebook.Document.Toml.Tables

/-! TOML documents: keys with values, in tables that headers name. -/

namespace Phrasebook.Toml

open Text (lit)

def skip (text : Text) : Text := text.dropWhile Document.isBlank

/-- What follows a comment, which holds no controls and goes on to the end of the line. -/
def skipComment (text : Text) : Except Fault Text :=
  match text with
  | [] => .ok []
  | c :: rest =>
    if c = '#'.toNat then
      if (rest.takeWhile (· != '\n'.toNat)).any isControl then .error .malformed
      else .ok (rest.dropWhile (· != '\n'.toNat))
    else .ok text

/-- What follows blanks, comments and line feeds, of which `bound` are skipped at most. -/
def skipLines (bound : Nat) (text : Text) : Except Fault Text :=
  match bound with
  | 0 => .ok text
  | bound + 1 => do
    match ← skipComment (skip text) with
    | [] => return []
    | c :: rest => if c = '\n'.toNat then skipLines bound rest else return c :: rest

/-- What follows blanks, comments and line feeds. -/
def skipAll (text : Text) : Except Fault Text := skipLines (text.length + 1) text

/-- What follows the mark `c`, which must be there. -/
def expect (c : Nat) (text : Text) : Except Fault Text :=
  match text with
  | [] => .error .malformed
  | d :: rest => if d = c then .ok rest else .error .malformed

/-- A value that must be there. -/
def required {α : Type} : Option α → Except Fault α
  | some a => .ok a
  | none => .error .malformed

def readKeyPart (text : Text) : Except Fault (Text × Text) :=
  match text.takeWhile Document.isBare with
  | [] => required (readLine? text)
  | key => .ok (key, text.dropWhile Document.isBare)

/-- Keys joined by at most `bound` points, and what follows them and blanks. -/
def readKeys (bound : Nat) (text : Text) : Except Fault (Path × Text) := do
  let (part, rest) ← readKeyPart (skip text)
  match bound, skip rest with
  | bound + 1, c :: behind =>
    if c = '.'.toNat then
      let (parts, rest) ← readKeys bound behind
      return (part :: parts, rest)
    else return ([part], c :: behind)
  | _, rest => return ([part], rest)

def readPath (text : Text) : Except Fault (Path × Text) := readKeys text.length text

mutual

/-- The value at the start of a text.  The levels that are open and the members behind which they are
come to less than `bound`. -/
def readValue (bound : Nat) (text : Text) : Except Fault (Value × Text) :=
  match bound, text with
  | 0, _ => .error .malformed
  | _, [] => .error .malformed
  | bound + 1, c :: rest => do
    if c = '"'.toNat || c = '\''.toNat then
      let (s, rest) ← required (readQuoted? text)
      return (.text s, rest)
    else if c = '['.toNat then readItems bound [] (← skipAll rest)
    else if c = '{'.toNat then readMembers bound .empty (← skipAll rest)
    else readBare text

/-- The items of a list behind the ones that are read, which are the latest first. -/
def readItems (bound : Nat) (items : List Value) (text : Text) : Except Fault (Value × Text) :=
  match bound, text with
  | 0, _ => .error .malformed
  | _, [] => .error .malformed
  | bound + 1, c :: rest => do
    if c = ']'.toNat then return (.list items.reverse, rest)
    let (v, rest) ← readValue bound text
    let rest ← skipAll rest
    if rest.head? = some ']'.toNat then return (.list (v :: items).reverse, rest.drop 1)
    readItems bound (v :: items) (← skipAll (← expect ','.toNat rest))

/-- The members of a table in braces behind the ones that are read. -/
def readMembers (bound : Nat) (table : Tables) (text : Text) : Except Fault (Value × Text) :=
  match bound, text with
  | 0, _ => .error .malformed
  | _, [] => .error .malformed
  | bound + 1, c :: rest => do
    if c = '}'.toNat then return (.map table.entries, rest)
    let (path, rest) ← readPath text
    let (v, rest) ← readValue bound (skip (← expect '='.toNat rest))
    let table ← required (table.insert false [] path v)
    let rest ← skipAll rest
    if rest.head? = some '}'.toNat then return (.map table.entries, rest.drop 1)
    readMembers bound table (← skipAll (← expect ','.toNat rest))

end

/-- A header or a key with its value, what follows it on the line, and the header that is in force
then. -/
def readStatement (t : Tables) (header : Path) (text : Text) :
    Except Fault (Tables × Path × Text) := do
  match Text.after? (lit "[[") text, Text.after? (lit "[") text with
  | some rest, _ =>
    let (path, rest) ← readPath rest
    return (← required (t.closePending.extendTables path), path,
      ← required (Text.after? (lit "]]") rest))
  | none, some rest =>
    let (path, rest) ← readPath rest
    return (← required (t.closePending.openTable path), path, ← expect ']'.toNat rest)
  | none, none =>
    let (path, rest) ← readPath text
    let (v, rest) ← readValue (2 * text.length) (skip (← expect '='.toNat rest))
    return (← required (t.insert true header path v), header, rest)

/-- The statements of a document, of which there are at most `bound`. -/
def readStatements (bound : Nat) (t : Tables) (header : Path) (text : Text) :
    Except Fault Entries := do
  match bound, ← skipAll text with
  | _, [] => return t.entries
  | 0, _ => throw .malformed
  | bound + 1, c :: rest =>
    let (t, header, rest) ← readStatement t header (c :: rest)
    match ← skipComment (skip rest) with
    | [] => return t.entries
    | d :: rest => if d = '\n'.toNat then readStatements bound t header rest else throw .malformed

/-- The mapping that a whole document is. -/
def read (text : Text) : Except Fault Entries := readStatements (text.length + 1) .empty [] text

end Phrasebook.Toml
