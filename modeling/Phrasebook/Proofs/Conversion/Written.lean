import Phrasebook.Conversion.Basic
import Phrasebook.Proofs.Text.Run

/-! Conversions as texts: each text that writes a conversion is read as that conversion, whatever
follows it. -/

namespace Phrasebook

open Text (isDigit Stops stops_cons_iff)

namespace Flag

theorem readRun_append (flags : List Flag) {text : Text}
    (h : ∀ c ∈ text.head?, ofCharacter? c = none) :
    readRun (flags.map character ++ text) = (flags, text) := by
  induction flags with
  | nil =>
    cases text with
    | nil => rfl
    | cons c text => rw [List.map_nil, List.nil_append, readRun, h c rfl]
  | cons f flags ih =>
    rw [List.map_cons, List.cons_append, readRun, ofCharacter?_character]
    simp only [ih]

theorem not_flag_behind_readRun (text : Text) :
    ∀ c ∈ (readRun text).2.head?, ofCharacter? c = none := by
  induction text with
  | nil => exact fun _ h => nomatch h
  | cons c text ih =>
    rw [readRun]
    split
    · exact ih
    · next h =>
      intro c' hc'
      cases hc'
      exact h

theorem ofCharacter?_of_isDigit {c : Nat} (h : isDigit c) (hzero : c ≠ '0'.toNat) :
    ofCharacter? c = none := by
  cases hf : ofCharacter? c with
  | none => rfl
  | some f =>
    have hc := character_of_ofCharacter? hf
    subst hc
    cases f with
    | zero => exact absurd rfl hzero
    | left => exact absurd h (by decide)
    | plus => exact absurd h (by decide)
    | blank => exact absurd h (by decide)
    | alternate => exact absurd h (by decide)

end Flag

namespace Letter

theorem not_flag (letter : Letter) : Flag.ofCharacter? letter.character = none := by
  cases letter <;> decide

theorem not_digit (letter : Letter) : isDigit letter.character = false := by
  cases letter <;> decide

theorem ne_point (letter : Letter) : letter.character ≠ '.'.toNat := by
  cases letter <;> decide

end Letter

namespace Conversion

/-- Width and precision are runs of digits, and the width does not begin with the flag `0`. -/
structure WellFormed (spec : Conversion) : Prop where
  width : ∀ c ∈ spec.width, isDigit c
  noFlag : spec.width.head? ≠ some '0'.toNat
  precision : ∀ digits ∈ spec.precision, ∀ c ∈ digits, isDigit c

theorem digits_of_readPrecision (text : Text) :
    ∀ digits ∈ (readPrecision text).1, ∀ c ∈ digits, isDigit c := by
  intro digits hdigits c hc
  unfold readPrecision at hdigits
  split at hdigits
  · cases hdigits
  · split at hdigits
    · cases hdigits
      exact List.mem_takeWhile_imp hc
    · cases hdigits

theorem readPrecision_append {precision : Option Text} (letter : Letter) (rest : Text)
    (h : ∀ digits ∈ precision, ∀ c ∈ digits, isDigit c) :
    readPrecision (precisionText precision ++ letter.character :: rest) =
      (precision, letter.character :: rest) := by
  cases precision with
  | none =>
    unfold precisionText readPrecision
    rw [List.nil_append]
    exact if_neg letter.ne_point
  | some digits =>
    have hstops : Stops isDigit (letter.character :: rest) := stops_cons_iff.mpr letter.not_digit
    obtain ⟨htake, hdrop⟩ := Text.takeWhile_dropWhile_eq_iff.mpr ⟨h digits rfl, hstops, rfl⟩
    unfold precisionText readPrecision
    rw [List.cons_append]
    simp only [if_true, htake, hdrop]

theorem stops_precisionText (precision : Option Text) (letter : Letter) (rest : Text) :
    Stops isDigit (precisionText precision ++ letter.character :: rest) := by
  cases precision with
  | none => exact stops_cons_iff.mpr letter.not_digit
  | some digits => exact stops_cons_iff.mpr (by decide)

theorem WellFormed.not_flag {spec : Conversion} (h : spec.WellFormed) (rest : Text) :
    ∀ c ∈ (spec.width ++ (precisionText spec.precision ++ spec.letter.character :: rest)).head?,
      Flag.ofCharacter? c = none := by
  obtain ⟨flags, width, precision, letter⟩ := spec
  intro c hc
  cases width with
  | nil =>
    cases precision with
    | none =>
      cases hc
      exact letter.not_flag
    | some digits =>
      cases hc
      decide
  | cons c' width =>
    cases hc
    refine Flag.ofCharacter?_of_isDigit (h.width c (by simp)) ?_
    rintro rfl
    exact h.noFlag rfl

/-- A conversion is read where it is written, and only there. -/
theorem read?_eq_some_iff {text rest : Text} {spec : Conversion} :
    read? text = some (spec, rest) ↔ spec.WellFormed ∧ text = spec.written ++ rest := by
  constructor
  · intro h
    refine ⟨?_, written_of_read? h⟩
    have hbehind := Flag.not_flag_behind_readRun text
    simp only [read?] at h
    generalize Flag.readRun text = run at h hbehind
    obtain ⟨flags, text'⟩ := run
    simp only at h hbehind
    have hprecision := digits_of_readPrecision (text'.dropWhile isDigit)
    generalize readPrecision (text'.dropWhile isDigit) = found at h hprecision
    obtain ⟨precision, text''⟩ := found
    cases text'' with
    | nil => cases h
    | cons c text'' =>
      obtain ⟨letter, -, heq⟩ := Option.map_eq_some_iff.mp h
      cases heq
      refine ⟨fun c hc => List.mem_takeWhile_imp hc, ?_, hprecision⟩
      intro hzero
      -- a zero at the start of the width would have been read as a flag
      rw [← List.singleton_prefix_iff_head?_eq_some] at hzero
      have hprefix := hzero.trans (List.takeWhile_prefix isDigit)
      cases hbehind _ (List.singleton_prefix_iff_head?_eq_some.mp hprefix)
  · rintro ⟨hspec, rfl⟩
    obtain ⟨htake, hdrop⟩ := Text.takeWhile_dropWhile_eq_iff.mpr
      ⟨hspec.width, stops_precisionText spec.precision spec.letter rest, rfl⟩
    unfold read? written
    simp only [List.append_assoc, List.singleton_append,
      Flag.readRun_append spec.flags (hspec.not_flag rest), htake, hdrop,
      readPrecision_append spec.letter rest hspec.precision, Letter.ofCharacter?_character,
      Option.map_some]

theorem read?_cons_eq_none {c : Nat} (hflag : Flag.ofCharacter? c = none)
    (hdigit : isDigit c = false) (hpoint : c ≠ '.'.toNat) (hletter : Letter.ofCharacter? c = none)
    (rest : Text) : read? (c :: rest) = none := by
  have hrun : Flag.readRun (c :: rest) = ([], c :: rest) := by rw [Flag.readRun, hflag]
  have hdrop : (c :: rest).dropWhile isDigit = c :: rest := by
    rw [List.dropWhile_cons, if_neg (by simp [hdigit])]
  have hprecision : readPrecision (c :: rest) = (none, c :: rest) := if_neg hpoint
  unfold read?
  simp only [hrun, hdrop, hprecision, hletter, Option.map_none]

end Conversion

end Phrasebook
