import Phrasebook.Settings.File

/-! Settings files whose documents are no mappings.  They are refused in every format, but that YAML
documents of nothing stand for the usual settings. -/

namespace Phrasebook

open Text (lit)

/-! ### Endings in either case -/

namespace Text

/-- All runs of characters but the first one are past ASCII. -/
theorem le_first_of_mem_lowerShifts : ∀ run ∈ lowerShifts.tail, 0x80 ≤ run.first := by
  have hall : (lowerShifts.tail.all fun run => decide (0x80 ≤ run.first)) = true := by
    decide +kernel
  simpa using hall

theorem lowerShift_of_lt {c : Nat} (h : c < 0x80) :
    Shift.apply lowerShifts c = if 'A'.toNat ≤ c ∧ c ≤ 'Z'.toNat then c + 32 else c := by
  have htail : lowerShifts.tail.find? (·.contains c) = none := by
    rw [List.find?_eq_none]
    intro run hrun
    have hfirst := le_first_of_mem_lowerShifts run hrun
    have hnot : ¬run.first ≤ c := by omega
    simp [Shift.contains, hnot]
  have hletter : Shift.contains ⟨0x41, 0x5A, 1, 32⟩ c = true ↔ 'A'.toNat ≤ c ∧ c ≤ 'Z'.toNat := by
    simp [Shift.contains, Nat.mod_one]
  unfold Shift.apply
  rw [show lowerShifts = ⟨0x41, 0x5A, 1, 32⟩ :: lowerShifts.tail from rfl, List.find?_cons]
  split
  · next hfound =>
    split at hfound
    · next hcontains =>
      cases hfound
      rw [if_pos (hletter.mp hcontains)]
      exact Int.toNat_natCast (c + 32)
    · rw [htail] at hfound
      cases hfound
  · next hnone =>
    split at hnone
    · cases hnone
    · next hcontains => rw [if_neg fun hupper => by simp [hletter.mpr hupper] at hcontains]

theorem lowerFrom_of_lt {text : Text} (h : ∀ c ∈ text, c < 0x80) (before : Text) :
    lowerFrom before text = asciiLower text := by
  induction text generalizing before with
  | nil => rfl
  | cons c rest ih =>
    obtain ⟨hc, hrest⟩ := List.forall_mem_cons.mp h
    rw [lowerFrom, ih hrest, lowerCharacter, lowerShift_of_lt hc, if_neg (by omega),
      if_neg (by omega)]
    rfl

/-- A text that is in ASCII with its letters in lower case is so in any case. -/
theorem lowerCase_eq_asciiLower {text : Text} (h : ∀ c ∈ asciiLower text, c < 0x80) :
    lowerCase text = asciiLower text := by
  refine lowerFrom_of_lt (fun c hc => ?_) []
  have hlower := h _ (List.mem_map_of_mem hc)
  split at hlower
  · next hupper =>
    have hz : 'Z'.toNat = 0x5A := rfl
    omega
  · exact hlower

end Text

namespace Settings.File

/-- The endings of a format in lower case. -/
def Format.endings : Format → List Text
  | json => [lit ".json"]
  | yaml => [lit ".yaml", lit ".yml"]
  | toml => [lit ".toml"]

theorem Format.ofSuffix?_of_mem {format : Format} {suffix : Text} (h : suffix ∈ format.endings) :
    ofSuffix? suffix = some format := by
  cases format with
  | json =>
    rw [List.mem_singleton.mp h]
    decide
  | yaml =>
    simp only [endings, List.mem_cons, List.not_mem_nil, or_false] at h
    rcases h with rfl | rfl <;> decide
  | toml =>
    rw [List.mem_singleton.mp h]
    decide

theorem Format.lt_of_mem_endings (format : Format) :
    ∀ suffix ∈ format.endings, ∀ c ∈ suffix, c < 0x80 := by
  cases format <;> decide

/-- The ending of a name tells the format, in whatever case its letters are. -/
theorem Format.ofSuffix?_lowerCase {format : Format} {suffix : Text}
    (h : Text.asciiLower suffix ∈ format.endings) :
    ofSuffix? (Text.lowerCase suffix) = some format := by
  rw [Text.lowerCase_eq_asciiLower (format.lt_of_mem_endings _ h)]
  exact ofSuffix?_of_mem h

/-! ### Documents that are no mappings -/

/-- Nothing, falsehood, zero, and what is empty. -/
inductive IsNothing : Value → Prop
  | none : IsNothing .none
  | falsehood : IsNothing (.bool false)
  | int : IsNothing (.int 0)
  | float (negative : Bool) (exponent : Int) : IsNothing (.float (.finite negative 0 exponent))
  | text : IsNothing (.text [])
  | list : IsNothing (.list [])
  | tuple : IsNothing (.tuple [])

theorem isNothing_iff {v : Value} : isNothing v ↔ IsNothing v := by
  constructor
  · intro h
    unfold isNothing at h
    split at h
    · exact .none
    · next b =>
      cases b with
      | false => exact .falsehood
      | true => cases h
    · rw [eq_of_beq h]
      exact .int
    · rw [eq_of_beq h]
      exact .float _ _
    · rw [List.isEmpty_iff.mp h]
      exact .text
    · rw [List.isEmpty_iff.mp h]
      exact .list
    · rw [List.isEmpty_iff.mp h]
      exact .tuple
    · cases h
  · intro h
    cases h <;> rfl

theorem ofMapping_nil : Settings.ofMapping [] = (.ok Settings.usual, []) := by
  have hnames : Settings.unknownNames [] = .ok [] := congrArg Except.ok List.mergeSort_nil
  unfold Settings.ofMapping
  dsimp only [Settings.inSection, Value.lookup]
  rw [hnames]
  rfl

theorem readDocument_of_content {format : Format} {bytes : List Nat} {v : Value}
    (h : readContent format bytes = .ok v) :
    readDocument format bytes = .ok (if format = .yaml ∧ isNothing v then .map [] else v) := by
  unfold readDocument
  rw [h]
  rfl

/-- A TOML document is a mapping. -/
theorem exists_map_of_toml {bytes : List Nat} {v : Value} (h : readContent .toml bytes = .ok v) :
    ∃ entries, v = .map entries := by
  unfold readContent at h
  dsimp only at h
  cases htext : (Utf8.decode bytes).mapError Fault.encoding with
  | error fault =>
    rw [htext] at h
    cases h
  | ok text =>
    rw [htext] at h
    change Value.map <$> (Toml.read (joinedNewlines text)).mapError Fault.toml = .ok v at h
    cases hread : (Toml.read (joinedNewlines text)).mapError Fault.toml with
    | error fault =>
      rw [hread] at h
      cases h
    | ok entries =>
      rw [hread] at h
      cases h
      exact ⟨entries, rfl⟩

section

variable {name : Text} {bytes : List Nat} {available : Format → Bool} {format : Format} {v : Value}

/-- What is loaded is in the mapping that the document is, or that stands for it. -/
theorem load_of_content (hname : Text.asciiLower (suffix name) ∈ format.endings)
    (havailable : available format = true) (hcontent : readContent format bytes = .ok v) :
    load name (some bytes) available =
      match (if format = .yaml ∧ isNothing v then .map [] else v : Value) with
      | .map entries =>
        ((Settings.ofMapping entries).1.mapError .settings, (Settings.ofMapping entries).2)
      | _ => (.error (.noMapping name), []) := by
  have hread : readEntries name (some bytes) available =
      match (if format = .yaml ∧ isNothing v then .map [] else v : Value) with
      | .map entries => .ok entries
      | _ => .error (.noMapping name) := by
    unfold readEntries
    dsimp only
    rw [Format.ofSuffix?_lowerCase hname]
    dsimp only
    rw [havailable, readDocument_of_content hcontent]
    rfl
  unfold load
  rw [hread]
  cases (if format = .yaml ∧ isNothing v then .map [] else v : Value) <;> rfl

theorem load_of_nothing (hname : Text.asciiLower (suffix name) ∈ Format.yaml.endings)
    (havailable : available .yaml = true) (hcontent : readContent .yaml bytes = .ok v)
    (hv : IsNothing v) : load name (some bytes) available = (.ok Settings.usual, []) := by
  rw [load_of_content hname havailable hcontent, if_pos ⟨rfl, isNothing_iff.mpr hv⟩]
  dsimp only
  rw [ofMapping_nil]
  rfl

/-- A document that is no mapping is refused, but for YAML documents of nothing, which stand for the
usual settings.  In TOML there is no such document. -/
theorem load_of_noMapping (hname : Text.asciiLower (suffix name) ∈ format.endings)
    (havailable : available format = true) (hcontent : readContent format bytes = .ok v)
    (hv : ∀ entries, v ≠ .map entries) :
    format ≠ .toml ∧
      (format = .yaml ∧ IsNothing v →
        load name (some bytes) available = (.ok Settings.usual, [])) ∧
      (¬(format = .yaml ∧ IsNothing v) →
        load name (some bytes) available = (.error (.noMapping name), []) ∧
          (Fault.noMapping name).message? =
            some (lit "Config file " ++ name ++ lit " must contain a mapping")) := by
  refine ⟨?_, ?_, fun hsomething => ⟨?_, rfl⟩⟩
  · rintro rfl
    obtain ⟨entries, hentries⟩ := exists_map_of_toml hcontent
    exact hv entries hentries
  · rintro ⟨rfl, hnothing⟩
    exact load_of_nothing hname havailable hcontent hnothing
  · rw [load_of_content hname havailable hcontent,
      if_neg fun h => hsomething ⟨h.1, isNothing_iff.mp h.2⟩]
    cases v with
    | map entries => exact absurd rfl (hv entries)
    | _ => rfl

/-- In JSON nothing is refused too, under an ending in any case. -/
theorem load_of_noMapping_null : readContent .json (lit "null") = .ok .none ∧
    load (lit "f.JSON") (some (lit "null")) (fun _ => true) =
      (.error (.noMapping (lit "f.JSON")), []) := by
  have hcontent : readContent .json (lit "null") = .ok .none := by rfl
  have hname : Text.asciiLower (suffix (lit "f.JSON")) ∈ Format.json.endings := by decide
  have hrefused := (@load_of_noMapping _ _ (fun _ => true) _ _ hname rfl hcontent (by simp)).2.2
  exact ⟨hcontent, (hrefused (by simp)).1⟩

/-- A YAML document of an empty list is no mapping, and stands for the usual settings. -/
theorem load_emptyList : readContent .yaml (lit "[]\n") = .ok (.list []) ∧
    load (lit "f.yaml") (some (lit "[]\n")) (fun _ => true) = (.ok Settings.usual, []) := by
  have hread : (readContent .yaml (lit "[]\n")).toOption.map (fun v => (isNothing v, v.kindName)) =
      some (true, lit "list") := by decide +kernel
  have hcontent : readContent .yaml (lit "[]\n") = .ok (.list []) := by
    cases hv : readContent .yaml (lit "[]\n") with
    | error fault =>
      rw [hv] at hread
      cases hread
    | ok v =>
      rw [hv] at hread
      obtain ⟨hnothing, hkind⟩ := Prod.mk.inj (Option.some.inj hread)
      cases isNothing_iff.mp hnothing with
      | list => rfl
      | _ => cases hkind
  exact ⟨hcontent, load_of_nothing (by decide) rfl hcontent .list⟩

end

end Settings.File

end Phrasebook
