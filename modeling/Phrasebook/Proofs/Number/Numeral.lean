import Mathlib.Data.Option.Basic
import Phrasebook.Number.Scientific
import Phrasebook.Proofs.Text.Run

/-! Numerals with a point, read.  A sign, digits of any script, and a point with digits behind it if
there are any: such a numeral is always read, and as the nearest binary number to what it writes. -/

namespace Phrasebook

open Text (lit isDigit isAsciiDigit isWhitespace digitValue? asciiLower Stops)

namespace Text

/-- Digits behind a point, which is not written if there are none. -/
def pointed : Text → Text
  | [] => []
  | digits => '.'.toNat :: digits

theorem pointed_of_ne_nil {digits : Text} (h : digits ≠ []) :
    pointed digits = '.'.toNat :: digits := by
  cases digits with
  | nil => exact absurd rfl h
  | cons d digits => rfl

theorem map_pointed {f : Nat → Nat} (h : f '.'.toNat = '.'.toNat) (digits : Text) :
    (pointed digits).map f = pointed (digits.map f) := by
  cases digits with
  | nil => rfl
  | cons d digits => exact congrArg (· :: (d :: digits).map f) h

/-- A sign that may be missing. -/
def signs : List Text := [[], lit "+", lit "-"]

theorem mem_signs_iff {sign : Text} : sign ∈ signs ↔ sign = [] ∨ sign = lit "+" ∨ sign = lit "-" := by
  simp [signs]

/-- No digit of any script is white space. -/
theorem isWhitespace_of_isDigit {c : Nat} (h : isDigit c) : isWhitespace c = false := by
  have hnone : ∀ c ∈ whitespace, isDigit c = false := by decide
  by_contra hspace
  rw [Bool.not_eq_false] at hspace
  exact absurd h (by simp [hnone c (List.contains_iff_mem.mp hspace)])

theorem asciiLower_of_lt {text : Text} (h : ∀ c ∈ text, c < 'A'.toNat) :
    asciiLower text = text := by
  refine (List.map_congr_left fun c hc => ?_).trans (List.map_id text)
  exact if_neg fun hletter => absurd (h c hc) (Nat.not_lt.mpr hletter.1)

end Text

open Text (pointed signs)

namespace Digits

variable {digits : List Nat}

theorem character_bounds {d : Nat} (h : d < 10) :
    '0'.toNat ≤ character d ∧ character d ≤ '9'.toNat ∧ character d - '0'.toNat = d := by
  rw [character, if_pos h]
  simp only [Char.reduceToNat]
  omega

theorem isAsciiDigit_of_mem_text (h : ∀ d ∈ digits, d < 10) :
    ∀ c ∈ text digits, isAsciiDigit c := by
  intro c hc
  obtain ⟨d, hd, rfl⟩ := List.mem_map.mp hc
  obtain ⟨hlow, hhigh, -⟩ := character_bounds (h d hd)
  rw [isAsciiDigit, Bool.and_eq_true, decide_eq_true_eq, decide_eq_true_eq]
  exact ⟨hlow, hhigh⟩

theorem ofDigits_text (h : ∀ d ∈ digits, d < 10) :
    Scientific.ofDigits (text digits) = toNat 10 digits := by
  rw [Scientific.ofDigits, text, List.map_map]
  congr 1
  exact (List.map_congr_left fun d hd => (character_bounds (h d hd)).2.2).trans (List.map_id digits)

theorem length_text (digits : List Nat) : (text digits).length = digits.length :=
  List.length_map _

theorem text_append (digits behind : List Nat) : text (digits ++ behind) = text digits ++ text behind :=
  List.map_append

/-- Digits of any script, one by one in ASCII. -/
theorem map_eq_text {written : Text} (h : ∀ c ∈ written, isDigit c) :
    (written.map fun c => (digitValue? c).elim c ('0'.toNat + ·)) =
      text (written.filterMap digitValue?) := by
  induction written with
  | nil => rfl
  | cons c written ih =>
    obtain ⟨hc, hwritten⟩ := List.forall_mem_cons.mp h
    obtain ⟨d, hd⟩ := Option.isSome_iff_exists.mp hc
    have hcharacter : character d = '0'.toNat + d := if_pos (Text.digitValue?_lt hd)
    rw [List.map_cons, List.filterMap_cons_some hd, ih hwritten, hd]
    exact congrArg (· :: _) hcharacter.symm

end Digits

namespace Scientific

variable {sign : Text}

theorem splitSign_append (hsign : sign ∈ signs) {c : Nat} (hc : c ∉ lit "+-") (rest : Text) :
    splitSign (sign ++ c :: rest) = (sign == lit "-", c :: rest) := by
  obtain ⟨hplus, hminus⟩ : c ≠ '+'.toNat ∧ c ≠ '-'.toNat := by
    simpa [lit] using hc
  rcases Text.mem_signs_iff.mp hsign with rfl | rfl | rfl
  · rw [List.nil_append, splitSign, if_neg hminus, if_neg hplus]
    rfl
  · rfl
  · rfl

theorem exists_sign (text : Text) : ∃ sign ∈ signs, text = sign ++ (splitSign text).2 := by
  cases text with
  | nil => exact ⟨[], by decide, rfl⟩
  | cons c rest =>
    rw [splitSign]
    split
    · next hminus => exact ⟨lit "-", by decide, congrArg (· :: rest) hminus⟩
    · split
      · next hplus => exact ⟨lit "+", by decide, congrArg (· :: rest) hplus⟩
      · exact ⟨[], by decide, rfl⟩

/-- A numeral in digits of any script, in ASCII digits. -/
theorem plain_numeral {whole fraction : Text} (hsign : sign ∈ signs)
    (hwhole : ∀ c ∈ whole, isDigit c) (hfraction : ∀ c ∈ fraction, isDigit c) :
    plain (sign ++ (whole ++ pointed fraction)) = sign ++
      (Digits.text (whole.filterMap digitValue?) ++
        pointed (Digits.text (fraction.filterMap digitValue?))) := by
  have hsolid {digits : Text} (h : ∀ c ∈ digits, isDigit c) :
      ∀ c ∈ digits, isWhitespace c = false := fun c hc => Text.isWhitespace_of_isDigit (h c hc)
  have hsigns : ∀ sign ∈ signs, (∀ c ∈ sign, isWhitespace c = false) ∧
      (sign.map fun c => (digitValue? c).elim c ('0'.toNat + ·)) = sign := by decide
  have hpointed : ∀ c ∈ pointed fraction, isWhitespace c = false := by
    cases fraction with
    | nil => exact List.forall_mem_nil _
    | cons c fraction => exact List.forall_mem_cons.mpr ⟨by decide, hsolid hfraction⟩
  have htrimmed := Text.trimmed_of_solid (List.forall_mem_append.mpr
    ⟨(hsigns sign hsign).1, List.forall_mem_append.mpr ⟨hsolid hwhole, hpointed⟩⟩)
  rw [plain, htrimmed, List.map_append, List.map_append, (hsigns sign hsign).2,
    Digits.map_eq_text hwhole, Text.map_pointed (by decide), Digits.map_eq_text hfraction]

variable {whole fraction : List Nat}

/-- What stands behind the sign of a numeral begins with a digit. -/
theorem splitSign_numeral (hsign : sign ∈ signs) (hne : whole ≠ []) (hwhole : ∀ d ∈ whole, d < 10)
    (rest : Text) : splitSign (sign ++ (Digits.text whole ++ rest)) =
      (sign == lit "-", Digits.text whole ++ rest) := by
  obtain ⟨d, whole, rfl⟩ := List.exists_cons_of_ne_nil hne
  obtain ⟨hlow, -, -⟩ := Digits.character_bounds (hwhole d List.mem_cons_self)
  have hsigns : ∀ c ∈ lit "+-", c < '0'.toNat := by decide
  exact splitSign_append hsign (fun hmem => absurd (hsigns _ hmem) (Nat.not_lt.mpr hlow)) _

theorem read?_numeral (hsign : sign ∈ signs) (hne : whole ≠ []) (hwhole : ∀ d ∈ whole, d < 10)
    (hfraction : ∀ d ∈ fraction, d < 10) :
    read? (sign ++ (Digits.text whole ++ pointed (Digits.text fraction))) =
      some ⟨sign == lit "-", Digits.toNat 10 (whole ++ fraction), -fraction.length⟩ := by
  have hstops : Stops isAsciiDigit (pointed (Digits.text fraction)) := by
    cases fraction with
    | nil => exact Text.stops_nil
    | cons d fraction => exact Text.stops_cons_iff.mpr (by decide)
  obtain ⟨htake, hdrop⟩ := Text.takeWhile_dropWhile_eq_iff.mpr
    ⟨Digits.isAsciiDigit_of_mem_text hwhole, hstops, rfl⟩
  obtain ⟨hfractionTake, hfractionDrop⟩ := Text.takeWhile_dropWhile_eq_iff.mpr
    ⟨Digits.isAsciiDigit_of_mem_text hfraction, Text.stops_nil, (List.append_nil _).symm⟩
  have hdigits : Digits.text whole ++ Digits.text fraction ≠ [] := by
    simp [Digits.text, hne]
  have hvalue : ofDigits (Digits.text whole ++ Digits.text fraction) =
      Digits.toNat 10 (whole ++ fraction) := by
    rw [← Digits.text_append, Digits.ofDigits_text (List.forall_mem_append.mpr ⟨hwhole, hfraction⟩)]
  have hread : (do
      guard (Digits.text whole ++ Digits.text fraction ≠ [])
      let exponent ← exponent? []
      return ⟨sign == lit "-", ofDigits (Digits.text whole ++ Digits.text fraction),
        exponent - (Digits.text fraction).length⟩ : Option Scientific) =
      some ⟨sign == lit "-", Digits.toNat 10 (whole ++ fraction), -fraction.length⟩ := by
    have hguard : (guard (Digits.text whole ++ Digits.text fraction ≠ []) : Option Unit) =
        some () := if_pos hdigits
    rw [hvalue, Digits.length_text, hguard]
    exact congrArg (fun e => some (Scientific.mk _ _ e)) (Int.zero_sub _)
  simp only [read?, splitSign_numeral hsign hne hwhole, htake, hdrop]
  cases fraction with
  | nil => exact hread
  | cons d fraction =>
    rw [Text.pointed_of_ne_nil (by simp [Digits.text])]
    simp only [if_true, hfractionTake, hfractionDrop]
    exact hread

end Scientific

/-- A numeral is read as the binary number that is nearest to it. -/
theorem Binary64.ofText?_numeral {sign : Text} {whole fraction : List Nat} (hsign : sign ∈ signs)
    (hne : whole ≠ []) (hwhole : ∀ d ∈ whole, d < 10) (hfraction : ∀ d ∈ fraction, d < 10) :
    ofText? (sign ++ (Digits.text whole ++ pointed (Digits.text fraction))) =
      some (.ofDecimal (sign == lit "-") (Digits.toNat 10 (whole ++ fraction))
        (-fraction.length)) := by
  have hsigns : ∀ sign ∈ signs, ∀ c ∈ sign, c < 'A'.toNat := by decide
  have hdigits {digits : List Nat} (h : ∀ d ∈ digits, d < 10) :
      ∀ c ∈ Digits.text digits, c < 'A'.toNat := by
    intro c hc
    obtain ⟨d, hd, rfl⟩ := List.mem_map.mp hc
    exact (Digits.character_bounds (h d hd)).2.1.trans_lt (by decide)
  have hpointed : ∀ c ∈ pointed (Digits.text fraction), c < 'A'.toNat := by
    cases fraction with
    | nil => exact List.forall_mem_nil _
    | cons d fraction => exact List.forall_mem_cons.mpr ⟨by decide, hdigits hfraction⟩
  have hlower := Text.asciiLower_of_lt (List.forall_mem_append.mpr
    ⟨hsigns sign hsign, List.forall_mem_append.mpr ⟨hdigits hwhole, hpointed⟩⟩)
  -- a word begins with a letter
  have hword (word : Text) (h : ∀ c ∈ word.head?, 'A'.toNat ≤ c) :
      Digits.text whole ++ pointed (Digits.text fraction) ≠ word := by
    rintro rfl
    obtain ⟨d, whole, rfl⟩ := List.exists_cons_of_ne_nil hne
    have hd := hdigits hwhole (Digits.character d) List.mem_cons_self
    exact absurd (h _ rfl) (Nat.not_le.mpr hd)
  rw [ofText?, hlower, Scientific.splitSign_numeral hsign hne hwhole]
  simp only
  rw [if_neg (hword (lit "nan") (by decide)),
    if_neg (not_or.mpr ⟨hword (lit "inf") (by decide),
      hword (lit "infinity") (by decide)⟩),
    Scientific.read?_numeral hsign hne hwhole hfraction]
  rfl

end Phrasebook
