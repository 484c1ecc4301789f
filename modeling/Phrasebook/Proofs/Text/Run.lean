import Mathlib.Data.List.TakeWhile
import Phrasebook.Text.Whitespace

/-! Longest runs: characters of one class, up to the first character of another. -/

namespace Phrasebook.Text

variable {p : Nat → Bool} {text run rest : Text}

/-- The text does not go on with a character of the class. -/
def Stops (p : Nat → Bool) (text : Text) : Prop :=
  ∀ c ∈ text.head?, p c = false

theorem stops_nil : Stops p [] := fun _ h => nomatch h

theorem stops_cons_iff {c : Nat} : Stops p (c :: rest) ↔ p c = false := by
  unfold Stops
  rw [List.head?_cons]
  simp

theorem stops_dropWhile (text : Text) : Stops p (text.dropWhile p) := by
  cases h : text.dropWhile p with
  | nil => exact stops_nil
  | cons c rest =>
    rw [stops_cons_iff]
    have hhead := List.head_dropWhile_not p (by rw [h]; exact List.cons_ne_nil c rest)
    simpa [h] using hhead

/-- The longest run is the run that the text does not go on with. -/
theorem takeWhile_dropWhile_eq_iff : text.takeWhile p = run ∧ text.dropWhile p = rest ↔
    (∀ c ∈ run, p c) ∧ Stops p rest ∧ text = run ++ rest := by
  constructor
  · rintro ⟨rfl, rfl⟩
    exact ⟨fun c hc => List.mem_takeWhile_imp hc, stops_dropWhile text,
      List.takeWhile_append_dropWhile.symm⟩
  · rintro ⟨hrun, hstops, rfl⟩
    rw [List.takeWhile_append_of_pos hrun, List.dropWhile_append_of_pos hrun]
    cases rest with
    | nil => simp
    | cons c rest =>
      rw [stops_cons_iff] at hstops
      simp [hstops]

/-- What is left of a text between white space. -/
theorem trimmed_append {front core back : Text} (hfront : ∀ c ∈ front, isWhitespace c)
    (hcore : ∀ c ∈ core, isWhitespace c = false) (hback : ∀ c ∈ back, isWhitespace c) :
    trimmed (front ++ core ++ back) = core := by
  have hsolid {text : Text} (h : ∀ c ∈ text, isWhitespace c = false) (hne : text ≠ [])
      (rest : Text) : (text ++ rest).dropWhile isWhitespace = text ++ rest := by
    cases text with
    | nil => exact absurd rfl hne
    | cons c text => exact List.dropWhile_cons_of_neg (by simp [h c List.mem_cons_self])
  unfold trimmed
  -- at either end the white space goes, up to the core
  rw [List.append_assoc, List.dropWhile_append_of_pos hfront]
  by_cases hne : core = []
  · rw [hne, List.nil_append, List.dropWhile_eq_nil_iff.mpr hback]
    rfl
  · have hreverse : ∀ c ∈ core.reverse, isWhitespace c = false := by simpa using hcore
    have hcut := hsolid hreverse (by simpa using hne) []
    rw [List.append_nil] at hcut
    rw [hsolid hcore hne, List.reverse_append, List.dropWhile_append_of_pos (by simpa using hback),
      hcut, List.reverse_reverse]

/-- A text without white space has none at its ends. -/
theorem trimmed_of_solid (h : ∀ c ∈ text, isWhitespace c = false) : trimmed text = text := by
  have htrimmed := trimmed_append (List.forall_mem_nil _) h (List.forall_mem_nil _)
  rwa [List.nil_append, List.append_nil] at htrimmed

end Phrasebook.Text
