import Phrasebook.Text.Basic

/-! Balanced braces: the shortest span that closes the brace it begins with, where braces inside
double quotes do not count. -/

namespace Phrasebook.Braces

/-- Where a character stands: outside quotation marks, inside, or inside behind a backslash. -/
inductive Place where
  | outside
  | inside
  | escaped
  deriving DecidableEq

/-- How many braces are open, and where the next character stands. -/
structure Depth where
  opened : Nat
  place : Place
  deriving DecidableEq

namespace Depth

def start : Depth := ⟨0, .outside⟩

/-- The depth behind one more character. -/
def step (d : Depth) (c : Nat) : Depth :=
  match d.place with
  | .escaped => { d with place := .inside }
  | .inside =>
    if c = '\\'.toNat then { d with place := .escaped }
    else if c = '"'.toNat then { d with place := .outside }
    else d
  | .outside =>
    if c = '"'.toNat then { d with place := .inside }
    else if c = '{'.toNat then { d with opened := d.opened + 1 }
    else if c = '}'.toNat then { d with opened := d.opened - 1 }
    else d

end Depth

/-- The shortest start of a text, of at least one character, behind which no brace is open, and what
follows it. -/
def closing? (d : Depth) : Text → Option (Text × Text)
  | [] => none
  | c :: rest =>
    let d := d.step c
    if d.opened = 0 then some ([c], rest)
    else Text.onto c (closing? d rest)

/-- The span that closes the brace a text begins with, and what follows it. -/
def span? (text : Text) : Option (Text × Text) := closing? .start text

theorem append_of_closing? {d : Depth} {text span after : Text}
    (h : closing? d text = some (span, after)) : span ++ after = text := by
  induction text generalizing d span with
  | nil => cases h
  | cons c rest ih =>
    simp only [closing?] at h
    split at h
    · cases h
      rfl
    · obtain ⟨span', hr, rfl⟩ := Text.onto_eq_some_iff.mp h
      simp [ih hr]

theorem append_of_span? {text span after : Text} (h : span? text = some (span, after)) :
    span ++ after = text := append_of_closing? h

end Phrasebook.Braces
