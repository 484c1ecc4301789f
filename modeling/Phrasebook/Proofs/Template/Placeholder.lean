import Phrasebook.Proofs.Conversion.Written
import Phrasebook.Proofs.Template.Braces
import Phrasebook.Template.Placeholder

/-! Placeholders as texts.  Behind a percent sign, the reader finds exactly the placeholder that is
written there, and no text writes two. -/

namespace Phrasebook.Placeholder

open Text (isWord Stops stops_cons_iff takeWhile_dropWhile_eq_iff)

/-- Word characters, at least one. -/
def IsKey (key : Text) : Prop := key ≠ [] ∧ ∀ c ∈ key, isWord c

/-- The placeholder can stand before `rest`: its parts are what its form asks for, and a named one
without a conversion is not followed by one. -/
def Fits (p : Placeholder) (rest : Text) : Prop :=
  match p with
  | .positional spec => spec.WellFormed
  | .named key (some spec) => IsKey key ∧ spec.WellFormed
  | .named key none => IsKey key ∧
      ∀ (spec : Conversion) (rest' : Text), spec.WellFormed → rest ≠ spec.written ++ rest'
  | .value key => IsKey key
  | .reference count rules => IsKey count ∧ IsKey rules
  | .inline body => Braces.Span body

theorem word?_eq_some_iff {text key rest : Text} :
    word? text = some (key, rest) ↔ IsKey key ∧ Stops isWord rest ∧ text = key ++ rest := by
  have hrun := @takeWhile_dropWhile_eq_iff isWord text key rest
  unfold word?
  split
  · next hnil =>
    constructor
    · intro h
      cases h
    · rintro ⟨⟨hne, hkey⟩, hstops, htext⟩
      have htake := (hrun.mpr ⟨hkey, hstops, htext⟩).1
      rw [hnil] at htake
      exact absurd htake.symm hne
  · next hne =>
    rw [Option.some.injEq, Prod.mk.injEq, hrun]
    constructor
    · rintro ⟨hkey, hstops, htext⟩
      have htake := (hrun.mpr ⟨hkey, hstops, htext⟩).1
      exact ⟨⟨fun hnil => hne (htake.trans hnil), hkey⟩, hstops, htext⟩
    · rintro ⟨⟨-, hkey⟩, hstops, htext⟩
      exact ⟨hkey, hstops, htext⟩

/-- A key is read up to a mark that is no word character. -/
theorem word?_append_cons {key : Text} (hkey : IsKey key) {c : Nat} (hc : isWord c = false)
    (rest : Text) : word? (key ++ c :: rest) = some (key, c :: rest) :=
  word?_eq_some_iff.mpr ⟨hkey, stops_cons_iff.mpr hc, rfl⟩

/-! ### What the readers find -/

theorem fits_of_readInline? {text rest : Text} {p : Placeholder}
    (hopen : text.head? = some '{'.toNat) (h : readInline? text = some (p, rest)) :
    p.Fits rest := by
  unfold readInline? at h
  split at h
  · next body c rest' hspan =>
    split at h
    · cases h
      exact ((Braces.span?_eq_some_iff hopen).mp hspan).1
    · cases h
  · cases h

theorem fits_of_readNamed? {text rest : Text} {p : Placeholder}
    (h : readNamed? text = some (p, rest)) : p.Fits rest := by
  unfold readNamed? at h
  split at h
  · next key c rest' hword =>
    obtain ⟨hkey, -, -⟩ := word?_eq_some_iff.mp hword
    split at h
    · split at h
      · next spec rest'' hspec =>
        cases h
        exact ⟨hkey, (Conversion.read?_eq_some_iff.mp hspec).1⟩
      · next hnone =>
        cases h
        refine ⟨hkey, fun spec rest'' hspec heq => ?_⟩
        rw [Conversion.read?_eq_some_iff.mpr ⟨hspec, heq⟩] at hnone
        cases hnone
    · cases h
  · cases h

theorem fits_of_readBraced? {text rest : Text} {p : Placeholder}
    (h : readBraced? text = some (p, rest)) : p.Fits rest := by
  unfold readBraced? at h
  split at h
  · next key c rest' hword =>
    obtain ⟨hkey, -, -⟩ := word?_eq_some_iff.mp hword
    split at h
    · cases h
      exact hkey
    · split at h
      · split at h
        · next rules c' rest'' hword' =>
          obtain ⟨hrules, -, -⟩ := word?_eq_some_iff.mp hword'
          split at h
          · cases h
            exact ⟨hkey, hrules⟩
          · cases h
        · cases h
      · cases h
  · cases h

theorem fits_of_readPositional? {text rest : Text} {p : Placeholder}
    (h : readPositional? text = some (p, rest)) : p.Fits rest := by
  obtain ⟨⟨spec, rest'⟩, hspec, heq⟩ := Option.map_eq_some_iff.mp h
  cases heq
  exact (Conversion.read?_eq_some_iff.mp hspec).1

theorem fits_of_read? {text rest : Text} {p : Placeholder} (h : read? text = some (p, rest)) :
    p.Fits rest := by
  unfold read? at h
  split at h
  · cases h
  · split at h
    · split at h
      · next hopen => exact fits_of_readInline? hopen h
      · exact fits_of_readNamed? h
    · split at h
      · exact fits_of_readBraced? h
      · exact fits_of_readPositional? h

/-! ### What is written is found -/

theorem readInline?_append {body : Text} (h : Braces.Span body) (rest : Text) :
    readInline? (body ++ '>'.toNat :: rest) = some (.inline body, rest) := by
  unfold readInline?
  rw [Braces.span?_append h]
  exact if_pos rfl

theorem readNamed?_append {key : Text} {spec : Option Conversion} {rest : Text}
    (h : (named key spec).Fits rest) :
    readNamed? (key ++ '>'.toNat :: (spec.elim [] Conversion.written ++ rest)) =
      some (.named key spec, rest) := by
  unfold readNamed?
  cases spec with
  | none =>
    obtain ⟨hkey, hrest⟩ := h
    rw [word?_append_cons hkey (by decide)]
    cases hread : Conversion.read? rest with
    | none => simp [hread]
    | some found =>
      obtain ⟨hspec, htext⟩ := Conversion.read?_eq_some_iff.mp hread
      exact absurd htext (hrest found.1 found.2 hspec)
  | some spec =>
    obtain ⟨hkey, hspec⟩ := h
    have hread : Conversion.read? (spec.written ++ rest) = some (spec, rest) :=
      Conversion.read?_eq_some_iff.mpr ⟨hspec, rfl⟩
    rw [word?_append_cons hkey (by decide)]
    simp [hread]

theorem readBraced?_value {key : Text} (h : IsKey key) (rest : Text) :
    readBraced? (key ++ '}'.toNat :: rest) = some (.value key, rest) := by
  unfold readBraced?
  rw [word?_append_cons h (by decide)]
  rfl

theorem readBraced?_reference {count rules : Text} (hcount : IsKey count) (hrules : IsKey rules)
    (rest : Text) : readBraced? (count ++ ':'.toNat :: (rules ++ '}'.toNat :: rest)) =
      some (.reference count rules, rest) := by
  unfold readBraced?
  rw [word?_append_cons hcount (by decide)]
  simp only
  rw [word?_append_cons hrules (by decide)]
  rfl

/-- No conversion begins with a mark that is neither a flag, a digit, a point nor a letter. -/
theorem ne_of_written {spec : Conversion} (h : spec.WellFormed) {rest text : Text} {c : Nat}
    (htext : spec.written ++ rest = c :: text) :
    c ≠ '<'.toNat ∧ c ≠ '{'.toNat ∧ c ≠ '%'.toNat := by
  have hread := Conversion.read?_eq_some_iff.mpr ⟨h, htext.symm⟩
  refine ⟨?_, ?_, ?_⟩
  all_goals
    rintro rfl
    rw [Conversion.read?_cons_eq_none (by decide) (by decide) (by decide) (by decide)] at hread
    cases hread

theorem read?_form {p : Placeholder} {rest : Text} (h : p.Fits rest) :
    read? (p.form ++ rest) = some (p, rest) := by
  cases p with
  | positional spec =>
    have hread : Conversion.read? (spec.written ++ rest) = some (spec, rest) :=
      Conversion.read?_eq_some_iff.mpr ⟨h, rfl⟩
    unfold form
    cases htext : spec.written ++ rest with
    | nil =>
      rw [htext] at hread
      cases hread
    | cons c text =>
      obtain ⟨hangle, hbrace, -⟩ := ne_of_written h htext
      rw [htext] at hread
      unfold read? readPositional?
      simp only [if_neg hangle, if_neg hbrace, hread, Option.map_some]
  | named key spec =>
    have hkey : IsKey key := by
      cases spec with
      | none => exact h.1
      | some spec => exact h.1
    have hopen : ∀ text : Text, (key ++ text).head? ≠ some '{'.toNat := by
      intro text hhead
      obtain ⟨c, key, rfl⟩ := List.exists_cons_of_ne_nil hkey.1
      cases hhead
      exact absurd (hkey.2 '{'.toNat (by simp)) (by decide)
    unfold form read?
    simp only [List.cons_append, List.append_assoc, if_true, if_neg (hopen _)]
    exact readNamed?_append h
  | value key =>
    unfold form read?
    simp only [List.cons_append, List.append_assoc, List.nil_append]
    exact readBraced?_value h rest
  | reference count rules =>
    unfold form read?
    simp only [List.cons_append, List.append_assoc, List.nil_append]
    exact readBraced?_reference h.1 h.2 rest
  | inline body =>
    have hopen : (body ++ '>'.toNat :: rest).head? = some '{'.toNat := by
      obtain ⟨inner, -, rfl⟩ := h
      rfl
    unfold form read?
    simp only [List.cons_append, List.append_assoc, List.nil_append, if_true, if_pos hopen]
    exact readInline?_append h rest

/-- No placeholder begins with a second percent sign. -/
theorem exists_form_append {p : Placeholder} {rest : Text} (h : p.Fits rest) :
    ∃ c text, p.form ++ rest = c :: text ∧ c ≠ '%'.toNat := by
  cases p with
  | positional spec =>
    cases htext : spec.written ++ rest with
    | nil => simp [Conversion.written] at htext
    | cons c text => exact ⟨c, text, htext, (ne_of_written h htext).2.2⟩
  | named key spec => exact ⟨_, _, rfl, by decide⟩
  | value key => exact ⟨_, _, rfl, by decide⟩
  | reference count rules => exact ⟨_, _, rfl, by decide⟩
  | inline body => exact ⟨_, _, rfl, by decide⟩

/-- The reader finds what the text writes, and nothing where the text writes no placeholder. -/
theorem read?_eq_some_iff {text rest : Text} {p : Placeholder} :
    read? text = some (p, rest) ↔ p.Fits rest ∧ text = p.form ++ rest := by
  constructor
  · intro h
    exact ⟨fits_of_read? h, form_of_read? h⟩
  · rintro ⟨hfits, rfl⟩
    exact read?_form hfits

theorem read?_eq_none_iff {text : Text} :
    read? text = none ↔ ∀ (p : Placeholder) (rest : Text), p.Fits rest → text ≠ p.form ++ rest := by
  rw [Option.eq_none_iff_forall_ne_some, Prod.forall]
  simp only [ne_eq, read?_eq_some_iff, not_and]

end Phrasebook.Placeholder
