import Phrasebook.Value

/-! The tables of a TOML document while they are filled: the entries, and which tables must not be
opened or changed any more. -/

namespace Phrasebook.Toml

abbrev Entries := List (Value × Value)

abbrev Path := List Text

/-- The entries with `change` made to the table at a path.  Tables on the way are made if they are
missing; in a list of tables the last is meant, if `lists` allows it. -/
def within (lists : Bool) (path : Path) (change : Entries → Option Entries) (entries : Entries) :
    Option Entries :=
  match path with
  | [] => change entries
  | key :: path =>
    let put (v : Value) : Entries := Value.put (.text key) v entries
    match Value.lookup key entries with
    | none => (within lists path change []).map fun inner => put (.map inner)
    | some (.map inner) => (within lists path change inner).map fun inner => put (.map inner)
    | some (.list items) =>
      match lists, items.getLast? with
      | true, some (.map inner) =>
        (within lists path change inner).map fun inner => put (.list (items.dropLast ++ [.map inner]))
      | _, _ => none
    | some _ => none

/-- The entries with a key bound that was not. -/
def bind (key : Text) (v : Value) (entries : Entries) : Option Entries :=
  match Value.lookup key entries with
  | none => some (Value.put (.text key) v entries)
  | some _ => none

/-- The entries with one more table at the end of the list of a key. -/
def extend (key : Text) (entries : Entries) : Option Entries :=
  match Value.lookup key entries with
  | none => some (Value.put (.text key) (.list [.map []]) entries)
  | some (.list items) => some (Value.put (.text key) (.list (items ++ [.map []])) entries)
  | some _ => none

/-- The entries, the paths of tables that cannot be opened by a header again, those of values with
which nothing below them can be changed, and those that the next header closes. -/
structure Tables where
  entries : Entries
  opened : List Path
  frozen : List Path
  pending : List Path

namespace Tables

def empty : Tables := ⟨[], [], [], []⟩

def isFrozen (t : Tables) (path : Path) : Bool := t.frozen.any (·.isPrefixOf path)

/-- A header begins, which closes the tables that keys with points have made. -/
def closePending (t : Tables) : Tables :=
  { t with opened := t.pending ++ t.opened, pending := [] }

/-- A table that no header has opened is opened. -/
def openTable (t : Tables) (path : Path) : Option Tables := do
  guard !(t.opened.contains path || t.isFrozen path)
  let entries ← within true path some t.entries
  return { t with entries, opened := path :: t.opened }

/-- One more table is put into a list; what was said of the tables below the last one is forgotten. -/
def extendTables (t : Tables) (path : Path) : Option Tables := do
  guard !(t.isFrozen path)
  let key ← path.getLast?
  let entries ← within true path.dropLast (extend key) t.entries
  return { t with
    entries
    opened := path :: t.opened.filter fun opened => !path.isPrefixOf opened
    frozen := t.frozen.filter fun frozen => !path.isPrefixOf frozen }

/-- A collection, which nothing may change once it is bound. -/
def isCollection : Value → Bool
  | .list _ => true
  | .map _ => true
  | _ => false

/-- The tables that a path of keys goes through below a header. -/
def between (header path : Path) : List Path :=
  (List.range path.length).drop 1 |>.map fun n => header ++ path.take n

/-- A value bound to a path of keys below a header. -/
def insert (t : Tables) (lists : Bool) (header path : Path) (v : Value) : Option Tables := do
  let key ← path.getLast?
  let nests := between header path
  guard !(nests.any t.opened.contains || t.isFrozen (header ++ path.dropLast))
  let entries ← within lists (header ++ path.dropLast) (bind key v) t.entries
  return { t with
    entries
    frozen := if isCollection v then (header ++ path) :: t.frozen else t.frozen
    pending := nests ++ t.pending }

end Tables

end Phrasebook.Toml
