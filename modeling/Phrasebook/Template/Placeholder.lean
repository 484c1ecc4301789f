import Phrasebook.Conversion.Basic
import Phrasebook.Template.Braces
import Phrasebook.Text.Word

/-! Placeholders as they are written, behind a percent sign. -/

namespace Phrasebook

/-- A recognised placeholder.  `named` has a conversion if one follows the key. -/
inductive Placeholder where
  | positional (spec : Conversion)
  | named (key : Text) (spec : Option Conversion)
  | value (key : Text)
  | reference (count rules : Text)
  | inline (body : Text)
  deriving DecidableEq

namespace Placeholder

open Text (isWord)

/-- The placeholder without its percent sign. -/
def form : Placeholder → Text
  | .positional spec => spec.written
  | .named key spec =>
    '<'.toNat :: (key ++ '>'.toNat :: spec.elim [] Conversion.written)
  | .value key => '{'.toNat :: (key ++ ['}'.toNat])
  | .reference count rules => '{'.toNat :: (count ++ ':'.toNat :: (rules ++ ['}'.toNat]))
  | .inline body => '<'.toNat :: (body ++ ['>'.toNat])

def written (p : Placeholder) : Text := '%'.toNat :: p.form

/-- The longest run of word characters, which must not be empty, and what follows it. -/
def word? (text : Text) : Option (Text × Text) :=
  match text.takeWhile isWord with
  | [] => none
  | key => some (key, text.dropWhile isWord)

theorem append_of_word? {text key rest : Text} (h : word? text = some (key, rest)) :
    key ++ rest = text := by
  simp only [word?] at h
  split at h
  · cases h
  · next key' hkey =>
    cases h
    rw [← List.takeWhile_append_dropWhile (p := isWord) (l := text)]
    simp

/-- Behind an angle bracket: braces and their content, closed by an angle bracket. -/
def readInline? (text : Text) : Option (Placeholder × Text) :=
  match Braces.span? text with
  | some (body, c :: rest) => if c = '>'.toNat then some (.inline body, rest) else none
  | _ => none

/-- Behind an angle bracket: a key, closed by an angle bracket, and a conversion if one follows. -/
def readNamed? (text : Text) : Option (Placeholder × Text) :=
  match word? text with
  | some (key, c :: rest) =>
    if c = '>'.toNat then
      match Conversion.read? rest with
      | some (spec, rest) => some (.named key spec, rest)
      | none => some (.named key none, rest)
    else none
  | _ => none

/-- Behind a brace: a key, or two keys with a colon between them, closed by a brace. -/
def readBraced? (text : Text) : Option (Placeholder × Text) :=
  match word? text with
  | some (key, c :: rest) =>
    if c = '}'.toNat then some (.value key, rest)
    else if c = ':'.toNat then
      match word? rest with
      | some (rules, c :: rest) => if c = '}'.toNat then some (.reference key rules, rest) else none
      | _ => none
    else none
  | _ => none

def readPositional? (text : Text) : Option (Placeholder × Text) :=
  (Conversion.read? text).map fun (spec, rest) => (.positional spec, rest)

/-- The placeholder at the start of the text behind a percent sign, and what follows it.  The first
characters tell the four forms apart. -/
def read? (text : Text) : Option (Placeholder × Text) :=
  match text with
  | [] => none
  | c :: rest =>
    if c = '<'.toNat then
      if rest.head? = some '{'.toNat then readInline? rest else readNamed? rest
    else if c = '{'.toNat then readBraced? rest
    else readPositional? text

theorem form_of_readInline? {text rest : Text} {p : Placeholder}
    (h : readInline? text = some (p, rest)) : '<'.toNat :: text = p.form ++ rest := by
  simp only [readInline?] at h
  split at h
  · next body c rest' hs =>
    split at h
    · next hc =>
      cases h
      simp [form, ← Braces.append_of_span? hs, hc]
    · cases h
  · cases h

theorem form_of_readNamed? {text rest : Text} {p : Placeholder}
    (h : readNamed? text = some (p, rest)) : '<'.toNat :: text = p.form ++ rest := by
  simp only [readNamed?] at h
  split at h
  · next key c rest' hw =>
    split at h
    · next hc =>
      split at h
      · next spec rest'' hs =>
        cases h
        simp [form, ← append_of_word? hw, hc, Conversion.written_of_read? hs]
      · cases h
        simp [form, ← append_of_word? hw, hc]
    · cases h
  · cases h

theorem form_of_readBraced? {text rest : Text} {p : Placeholder}
    (h : readBraced? text = some (p, rest)) : '{'.toNat :: text = p.form ++ rest := by
  simp only [readBraced?] at h
  split at h
  · next key c rest' hw =>
    split at h
    · next hc =>
      cases h
      simp [form, ← append_of_word? hw, hc]
    · split at h
      · next hc =>
        split at h
        · next rules c' rest'' hr =>
          split at h
          · next hc' =>
            cases h
            simp [form, ← append_of_word? hw, hc, ← append_of_word? hr, hc']
          · cases h
        · cases h
      · cases h
  · cases h

theorem form_of_readPositional? {text rest : Text} {p : Placeholder}
    (h : readPositional? text = some (p, rest)) : text = p.form ++ rest := by
  obtain ⟨⟨spec, rest'⟩, hs, heq⟩ := Option.map_eq_some_iff.mp h
  cases heq
  exact Conversion.written_of_read? hs

/-- A placeholder that is read is the text it is read from. -/
theorem form_of_read? {text rest : Text} {p : Placeholder} (h : read? text = some (p, rest)) :
    text = p.form ++ rest := by
  cases text with
  | nil => cases h
  | cons c text =>
    simp only [read?] at h
    split at h
    · next hc =>
      subst hc
      split at h
      · exact form_of_readInline? h
      · exact form_of_readNamed? h
    · split at h
      · next hc =>
        subst hc
        exact form_of_readBraced? h
      · exact form_of_readPositional? h

theorem length_le_of_read? {text rest : Text} {p : Placeholder} (h : read? text = some (p, rest)) :
    rest.length ≤ text.length := by
  simp [form_of_read? h]

end Placeholder

end Phrasebook
