import Phrasebook.Text.Basic
import Std.Data.HashMap

/-! How the tables of characters are kept: sets by the points where membership changes, maps by runs
that move by one distance, and other tables as rows of hexadecimal numbers in a text. -/

namespace Phrasebook.Text

/-- Whether `c` lies in the set that begins at the first boundary, ends before the second, begins
again at the third, and so on. -/
def within : List Nat → Nat → Bool
  | [], _ => false
  | b :: bounds, c => if c < b then false else !within bounds c

/-- Characters at equal steps that move by the same distance. -/
structure Shift where
  first : Nat
  last : Nat
  step : Nat
  distance : Int

namespace Shift

def contains (run : Shift) (c : Nat) : Bool :=
  run.first ≤ c && c ≤ run.last && (c - run.first) % run.step == 0

/-- The character that `c` moves to by the run that it is in, or `c` itself if it is in none. -/
def apply (runs : List Shift) (c : Nat) : Nat :=
  match runs.find? (·.contains c) with
  | some run => (c + run.distance).toNat
  | none => c

end Shift

namespace Rows

/-- What has been read: the rows, latest first, and the unfinished row and number, if any. -/
structure Reading where
  rows : List (List Nat)
  row : List Nat
  number : Option Nat

namespace Reading

def start : Reading := ⟨[], [], none⟩

/-- The unfinished number joined to the unfinished row. -/
def endNumber (r : Reading) : Reading :=
  match r.number with
  | none => r
  | some n => { r with row := n :: r.row, number := none }

def endRow (r : Reading) : Reading :=
  let r := r.endNumber
  { r with rows := r.row.reverse :: r.rows, row := [] }

/-- One character more: a digit, a separator or a semicolon. -/
def step (r : Reading) (c : Char) : Reading :=
  if c = ';' then r.endRow
  else if c.isDigit then { r with number := some (r.number.getD 0 * 16 + (c.toNat - '0'.toNat)) }
  else if c.isUpper then
    { r with number := some (r.number.getD 0 * 16 + (c.toNat - 'A'.toNat + 10)) }
  else r.endNumber

end Reading

/-- The rows of a table. -/
def read (table : String) : List (List Nat) :=
  (table.foldl Reading.step .start).rows.reverse

/-- A table by the first number of each row. -/
def index (table : String) : Std.HashMap Nat (List Nat) :=
  (read table).foldl (fun rows row =>
    match row with
    | key :: values => rows.insert key values
    | [] => rows) {}

end Rows

end Phrasebook.Text
