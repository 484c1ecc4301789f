/-! Text as a list of code points, which admits the lone surrogates that an escape can denote. -/

namespace Phrasebook

/-- Code points in order; a number stands for a character or for one half of a surrogate pair. -/
abbrev Text := List Nat

namespace Text

/-- The code points of a string. -/
def lit (s : String) : Text := s.toList.map Char.toNat

/-- What follows `lead` in `text`, if `text` starts with it. -/
def after? (lead text : Text) : Option Text :=
  match lead, text with
  | [], rest => some rest
  | _ :: _, [] => none
  | a :: lead, b :: rest => if a = b then after? lead rest else none

theorem after?_eq_some_iff {lead text rest : Text} :
    after? lead text = some rest ↔ text = lead ++ rest := by
  induction lead generalizing text with
  | nil => simp [after?, eq_comm]
  | cons a lead ih =>
    cases text with
    | nil => simp [after?]
    | cons b text =>
      by_cases h : a = b <;> simp [after?, h, ih, eq_comm]

/-- A reading with one more element before those it found. -/
def onto {f : Type → Type} [Functor f] {α β : Type} (a : α) (reading : f (List α × β)) :
    f (List α × β) :=
  (fun (found, rest) => (a :: found, rest)) <$> reading

theorem onto_eq_some_iff {α β : Type} {a : α} {reading : Option (List α × β)} {found : List α}
    {rest : β} :
    onto a reading = some (found, rest) ↔
      ∃ found', reading = some (found', rest) ∧ found = a :: found' := by
  constructor
  · intro h
    cases reading <;> cases h
    exact ⟨_, rfl, rfl⟩
  · rintro ⟨found', rfl, rfl⟩
    rfl

theorem onto_eq_ok_iff {ε α β : Type} {a : α} {reading : Except ε (List α × β)} {found : List α}
    {rest : β} :
    onto a reading = .ok (found, rest) ↔
      ∃ found', reading = .ok (found', rest) ∧ found = a :: found' := by
  constructor
  · intro h
    cases reading <;> cases h
    exact ⟨_, rfl, rfl⟩
  · rintro ⟨found', rfl, rfl⟩
    rfl

theorem onto_eq_error_iff {ε α β : Type} {a : α} {reading : Except ε (List α × β)} {e : ε} :
    onto a reading = .error e ↔ reading = .error e := by
  constructor
  · intro h
    cases reading <;> cases h
    rfl
  · rintro rfl
    rfl

/-- Upper and lower case of the letters from `a` to `z`; every other code point stays. -/
def asciiUpper (text : Text) : Text :=
  text.map fun c => if 'a'.toNat ≤ c ∧ c ≤ 'z'.toNat then c - 32 else c

def asciiLower (text : Text) : Text :=
  text.map fun c => if 'A'.toNat ≤ c ∧ c ≤ 'Z'.toNat then c + 32 else c

/-- `text` with `old` replaced by `new` wherever it stands. -/
def replaced (old new : Nat) (text : Text) : Text :=
  text.map fun c => if c = old then new else c

/-- The texts between the marks `mark`. -/
def split (mark : Nat) : Text → List Text
  | [] => [[]]
  | c :: rest =>
    if c = mark then [] :: split mark rest
    else match split mark rest with
      | [] => [[c]]
      | part :: parts => (c :: part) :: parts

/-- Whether one text comes before another, by code point and then by length. -/
def before : Text → Text → Bool
  | _, [] => false
  | [], _ :: _ => true
  | a :: as, b :: bs => a < b || (a == b && before as bs)

end Text

end Phrasebook
