import Phrasebook.Text.Basic
import Phrasebook.Text.NormalForm.Canonical
import Phrasebook.Text.NormalForm.Combining
import Phrasebook.Text.NormalForm.Compatible
import Phrasebook.Text.Tables

/-! The four normal forms of text: decomposed or composed, canonically or for compatibility. -/

namespace Phrasebook.Text

structure NormalForm where
  compatible : Bool
  composed : Bool
  deriving DecidableEq

namespace NormalForm

/-- The form with a name, in either case. -/
def ofName? (name : Text) : Option NormalForm :=
  let name := asciiUpper name
  if name = lit "NFC" then some ⟨false, true⟩
  else if name = lit "NFD" then some ⟨false, false⟩
  else if name = lit "NFKC" then some ⟨true, true⟩
  else if name = lit "NFKD" then some ⟨true, false⟩
  else none

def canonicalParts : Std.HashMap Nat (List Nat) := Rows.index canonicalRows

def compatibleParts : Std.HashMap Nat (List Nat) := Rows.index compatibleRows

/-- The combining class of every character that has one other than zero. -/
def combiningClasses : Std.HashMap Nat Nat :=
  (Rows.read combiningRows).foldl (fun classes row =>
    match row with
    | [first, last, k] =>
      (List.range' first (last + 1 - first)).foldl (fun classes c => classes.insert c k) classes
    | _ => classes) {}

def composites : Std.HashMap (Nat × Nat) Nat :=
  (Rows.read compositeRows).foldl (fun pairs row =>
    match row with
    | [a, b, c] => pairs.insert (a, b) c
    | _ => pairs) {}

def combiningClass (c : Nat) : Nat := combiningClasses.getD c 0

/-! Hangul syllables are made of a leading consonant, a vowel and perhaps a trailing consonant, by
position in the block that begins at U+AC00. -/

def syllables : Nat := 0xAC00

def leading : Nat := 0x1100

def vowel : Nat := 0x1161

/-- One before the first trailing consonant. -/
def trailing : Nat := 0x11A7

def vowelCount : Nat := 21

def trailingCount : Nat := 28

def syllableCount : Nat := 19 * vowelCount * trailingCount

def isSyllable (c : Nat) : Bool := syllables ≤ c && c < syllables + syllableCount

/-- The parts of a syllable. -/
def syllableParts (c : Nat) : List Nat :=
  let index := c - syllables
  let parts := [leading + index / (vowelCount * trailingCount),
    vowel + index / trailingCount % vowelCount]
  if index % trailingCount = 0 then parts else parts ++ [trailing + index % trailingCount]

/-- The syllable of a consonant and a vowel, or of a syllable and a trailing consonant. -/
def syllable? (a b : Nat) : Option Nat :=
  if leading ≤ a ∧ a < leading + 19 ∧ vowel ≤ b ∧ b < vowel + vowelCount then
    some (syllables + ((a - leading) * vowelCount + (b - vowel)) * trailingCount)
  else if isSyllable a ∧ (a - syllables) % trailingCount = 0 ∧ trailing < b ∧
      b < trailing + trailingCount then
    some (a + (b - trailing))
  else none

/-- The characters that one character is made of. -/
def parts (compatible : Bool) (c : Nat) : List Nat :=
  if isSyllable c then syllableParts c
  else
    match if compatible then compatibleParts[c]? else none with
    | some parts => parts
    | none => canonicalParts.getD c [c]

/-- A run of combining characters in the order of their classes, where equals stay in place. -/
def sortedRun (run : Text) : Text := run.mergeSort fun a b => combiningClass a ≤ combiningClass b

/-- Every run of combining characters sorted; `run` is the one that is read. -/
def ordered (run : Text) : Text → Text
  | [] => sortedRun run
  | c :: rest =>
    if combiningClass c = 0 then sortedRun run ++ c :: ordered [] rest
    else ordered (run ++ [c]) rest

def compose? (a b : Nat) : Option Nat :=
  match syllable? a b with
  | some c => some c
  | none => composites[(a, b)]?

/-- What has been composed: the characters before the last starter, the starter, and the characters
behind it, latest first. -/
structure Composing where
  before : List Nat
  starter : Option Nat
  behind : List Nat

namespace Composing

/-- One character more, which composes with the starter unless a character between them is in the
way. -/
def step (s : Composing) (c : Nat) : Composing :=
  let k := combiningClass c
  let blocked : Bool := s.behind.head?.any fun last => k ≤ combiningClass last
  match if blocked then none else s.starter.bind (compose? · c) with
  | some starter => { s with starter := some starter }
  | none =>
    if k = 0 then ⟨s.behind ++ s.starter.toList ++ s.before, some c, []⟩
    else { s with behind := c :: s.behind }

def text (s : Composing) : Text := (s.behind ++ s.starter.toList ++ s.before).reverse

end Composing

def composedText (text : Text) : Text :=
  (text.foldl Composing.step ⟨[], none, []⟩).text

/-- A text in a normal form. -/
def apply (form : NormalForm) (text : Text) : Text :=
  let decomposed := ordered [] (text.flatMap (parts form.compatible))
  if form.composed then composedText decomposed else decomposed

end NormalForm

end Phrasebook.Text
