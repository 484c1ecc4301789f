import Phrasebook.Text.Digit

/-! Conversions as they are written: flags, width, precision and a letter. -/

namespace Phrasebook

inductive Flag where
  | left
  | plus
  | blank
  | zero
  | alternate
  deriving DecidableEq

namespace Flag

def character : Flag → Nat
  | left => '-'.toNat
  | plus => '+'.toNat
  | blank => ' '.toNat
  | zero => '0'.toNat
  | alternate => '#'.toNat

def ofCharacter? (c : Nat) : Option Flag :=
  [left, plus, blank, zero, alternate].find? (·.character = c)

theorem ofCharacter?_character (f : Flag) : ofCharacter? f.character = some f := by
  cases f <;> decide

theorem character_of_ofCharacter? {c : Nat} {f : Flag} (h : ofCharacter? c = some f) :
    f.character = c := by
  simpa using List.find?_some h

/-- The longest run of flags at the start of a text, and what follows it. -/
def readRun : Text → List Flag × Text
  | [] => ([], [])
  | c :: rest =>
    match ofCharacter? c with
    | some f => let (flags, rest) := readRun rest; (f :: flags, rest)
    | none => ([], c :: rest)

theorem readRun_written (text : Text) :
    (readRun text).1.map character ++ (readRun text).2 = text := by
  induction text with
  | nil => rfl
  | cons c rest ih =>
    rw [readRun]
    split
    · next f h => simp [character_of_ofCharacter? h, ih]
    · rfl

end Flag

/-- What a conversion asks for, named by the letter that writes it. -/
inductive Letter where
  | d | i | o | u | x | X | e | E | f | F | g | G | c | s
  deriving DecidableEq

namespace Letter

def character : Letter → Nat
  | d => 'd'.toNat
  | i => 'i'.toNat
  | o => 'o'.toNat
  | u => 'u'.toNat
  | x => 'x'.toNat
  | X => 'X'.toNat
  | e => 'e'.toNat
  | E => 'E'.toNat
  | f => 'f'.toNat
  | F => 'F'.toNat
  | g => 'g'.toNat
  | G => 'G'.toNat
  | c => 'c'.toNat
  | s => 's'.toNat

def ofCharacter? (ch : Nat) : Option Letter :=
  [d, i, o, u, x, X, e, E, f, F, g, G, c, s].find? (·.character = ch)

theorem ofCharacter?_character (l : Letter) : ofCharacter? l.character = some l := by
  cases l <;> decide

theorem character_of_ofCharacter? {ch : Nat} {l : Letter} (h : ofCharacter? ch = some l) :
    l.character = ch := by
  simpa using List.find?_some h

end Letter

/-- A conversion as it is written.  The width has no digits if there is none; the precision is
`none` without a point, and has no digits if none follow the point. -/
structure Conversion where
  flags : List Flag
  width : Text
  precision : Option Text
  letter : Letter
  deriving DecidableEq

namespace Conversion

/-- The conversion of a placeholder that writes none. -/
def plain : Conversion := ⟨[], [], none, .s⟩

/-- The point and the digits behind it. -/
def precisionText : Option Text → Text
  | none => []
  | some digits => '.'.toNat :: digits

/-- The conversion without the percent sign before it. -/
def written (spec : Conversion) : Text :=
  spec.flags.map Flag.character ++ spec.width ++ precisionText spec.precision ++
    [spec.letter.character]

def pattern (spec : Conversion) : Text := '%'.toNat :: spec.written

/-- A point and the longest run of digits behind it, if the text starts with a point. -/
def readPrecision : Text → Option Text × Text
  | [] => (none, [])
  | c :: rest =>
    if c = '.'.toNat then (some (rest.takeWhile Text.isDigit), rest.dropWhile Text.isDigit)
    else (none, c :: rest)

theorem readPrecision_written (text : Text) :
    precisionText (readPrecision text).1 ++ (readPrecision text).2 = text := by
  cases text with
  | nil => rfl
  | cons c rest =>
    rw [readPrecision]
    split
    · next h => simp [precisionText, h]
    · rfl

/-- The conversion at the start of a text, and what follows it: the longest runs of flags and of
digits, a precision if there is a point, and a letter. -/
def read? (text : Text) : Option (Conversion × Text) :=
  let (flags, text) := Flag.readRun text
  let width := text.takeWhile Text.isDigit
  let (precision, text) := readPrecision (text.dropWhile Text.isDigit)
  match text with
  | [] => none
  | c :: rest => (Letter.ofCharacter? c).map fun letter => (⟨flags, width, precision, letter⟩, rest)

theorem written_of_read? {text rest : Text} {spec : Conversion}
    (h : read? text = some (spec, rest)) : text = spec.written ++ rest := by
  have hflags := Flag.readRun_written text
  simp only [read?] at h
  generalize Flag.readRun text = flags at h hflags
  obtain ⟨flags, text'⟩ := flags
  have hwidth := List.takeWhile_append_dropWhile (p := Text.isDigit) (l := text')
  have hprecision := readPrecision_written (text'.dropWhile Text.isDigit)
  simp only at h hflags
  generalize readPrecision (text'.dropWhile Text.isDigit) = precision at h hprecision
  obtain ⟨precision, text''⟩ := precision
  simp only at h hprecision
  cases text'' with
  | nil => cases h
  | cons c text'' =>
    obtain ⟨letter, hl, heq⟩ := Option.map_eq_some_iff.mp h
    cases heq
    calc
      text = flags.map Flag.character ++
          (text'.takeWhile Text.isDigit ++ text'.dropWhile Text.isDigit) := by rw [hwidth, hflags]
      _ = _ := by simp [← hprecision, written, Letter.character_of_ofCharacter? hl]

end Conversion

end Phrasebook
