import Phrasebook.Proofs.Conversion.Padding
import Phrasebook.Proofs.Number.Truncation
import Phrasebook.Proofs.Text.QuotedString

/-! Integers as conversions write them.  Whatever the flags, the width and the precision, what
stands between the blanks is a sign, the mark of the base and digits that read back as the integer.
In base 10 it is any real number without its fraction, in the bases 8 and 16 an integer. -/

namespace Phrasebook

open Text (lit asciiUpper isAsciiDigit isWhitespace trimmed)
open QuotedString (IsHex hexValue? hexValue?_eq_some_iff)

/-! ### Reading digits -/

namespace Digits

/-- The digit of a base that a character writes, in lower or upper case. -/
def value? (base c : Nat) : Option Nat := (hexValue? c).filter (· < base)

/-- The number that one or more digits write in a base. -/
def read? (base : Nat) (text : Text) : Option Nat :=
  if text = [] then none else (text.mapM (value? base)).map (toNat base)

variable {base n : Nat} {text : Text}

theorem value?_eq_some_iff {c d : Nat} : value? base c = some d ↔ IsHex c d ∧ d < base := by
  simp [value?, hexValue?_eq_some_iff, Option.filter_eq_some_iff]

theorem mapM_value?_eq_some_iff {digits : List Nat} : text.mapM (value? base) = some digits ↔
    List.Forall₂ (fun c d => IsHex c d ∧ d < base) text digits := by
  simp only [← value?_eq_some_iff]
  induction text generalizing digits with
  | nil => cases digits <;> simp
  | cons c text ih =>
    rw [List.mapM_cons]
    cases digits with
    | nil => cases value? base c <;> cases text.mapM (value? base) <;> simp
    | cons d digits =>
      rw [List.forall₂_cons, ← ih]
      cases value? base c <;> cases text.mapM (value? base) <;> simp

theorem read?_eq_some_iff : read? base text = some n ↔ text ≠ [] ∧ ∃ digits,
    List.Forall₂ (fun c d => IsHex c d ∧ d < base) text digits ∧ toNat base digits = n := by
  unfold read?
  split
  · next h => simp [h]
  · next h => simp [h, ← mapM_value?_eq_some_iff]

/-- The characters of digits are read back. -/
theorem read?_text (hle : base ≤ 16) {digits : List Nat} (hne : digits ≠ [])
    (hdigits : ∀ d ∈ digits, d < base) : read? base (Digits.text digits) = some (toNat base digits) := by
  refine read?_eq_some_iff.mpr ⟨by simpa [Digits.text] using hne, digits, ?_, rfl⟩
  refine List.forall₂_map_left_iff.mpr (List.forall₂_same.mpr fun d hd => ?_)
  have hlt := hdigits d hd
  refine ⟨?_, hlt⟩
  unfold IsHex character
  split
  · next hd => exact .inl ⟨hd, rfl⟩
  · exact .inr ⟨by omega, by omega, .inl rfl⟩

/-- Every number that a base can write is read back. -/
theorem read?_numeral (hbase : 2 ≤ base) (hle : base ≤ 16) (n : Nat) :
    read? base (Text.numeral base n) = some n := by
  have hread := read?_text hle (ofNat_ne_nil base n) fun d hd => lt_of_mem_ofNat hbase hd
  rwa [toNat_ofNat] at hread

theorem read?_zeros_append (hbase : 0 < base) (h : read? base text = some n) (zeros : Nat) :
    read? base (List.replicate zeros '0'.toNat ++ text) = some n := by
  obtain ⟨hne, digits, hdigits, hn⟩ := read?_eq_some_iff.mp h
  refine read?_eq_some_iff.mpr ⟨by simp [hne], ?_⟩
  induction zeros with
  | zero => exact ⟨digits, hdigits, hn⟩
  | succ zeros ih =>
    obtain ⟨digits', hdigits', hn'⟩ := ih
    refine ⟨0 :: digits', .cons ⟨.inl ⟨by decide, rfl⟩, hbase⟩ hdigits', ?_⟩
    rw [← hn']
    simp [toNat]

/-- The case of the letters does not matter. -/
theorem read?_asciiUpper (h : read? base text = some n) :
    read? base (asciiUpper text) = some n := by
  obtain ⟨hne, digits, hdigits, hn⟩ := read?_eq_some_iff.mp h
  refine read?_eq_some_iff.mpr ⟨by simpa [asciiUpper] using hne, digits, ?_, hn⟩
  refine List.forall₂_map_left_iff.mpr (hdigits.imp fun c d hcd => ⟨?_, hcd.2⟩)
  have hhex := hcd.1
  unfold IsHex at hhex ⊢
  simp only [Char.reduceToNat] at *
  split <;> omega

/-- What is read consists of digits. -/
theorem exists_digit_of_read? (h : read? base text = some n) :
    ∀ c ∈ text, ∃ d, IsHex c d ∧ d < base := by
  obtain ⟨-, digits, hdigits, -⟩ := read?_eq_some_iff.mp h
  clear h
  induction hdigits with
  | nil => exact fun _ hc => nomatch hc
  | @cons c d _ _ hcd _ ih => exact List.forall_mem_cons.mpr ⟨⟨d, hcd⟩, ih⟩

/-- No digit is a blank. -/
theorem isWhitespace_of_read? (h : read? base text = some n) :
    ∀ c ∈ text, isWhitespace c = false := by
  intro c hc
  obtain ⟨d, hhex, -⟩ := exists_digit_of_read? h c hc
  have hsolid : ∀ c < 128, (hexValue? c).isSome → isWhitespace c = false := by decide
  refine hsolid c ?_ (by rw [hexValue?_eq_some_iff.mpr hhex]; rfl)
  simp only [IsHex, Char.reduceToNat] at hhex
  omega

end Digits

/-! ### Between the blanks -/

theorem Text.isWhitespace_of_mem_blanks (n : Nat) :
    ∀ c ∈ List.replicate n ' '.toNat, isWhitespace c := by
  intro c hc
  rw [List.eq_of_mem_replicate hc]
  decide

/-- A number stands between blanks, with zeros before its digits. -/
theorem Layout.exists_padNumber_eq (layout : Layout) (negative : Bool) (mark digits : Text) :
    ∃ before zeros behind, layout.padNumber negative mark digits =
      List.replicate before ' '.toNat ++
        (layout.signText negative ++ mark ++ (List.replicate zeros '0'.toNat ++ digits)) ++
        List.replicate behind ' '.toNat := by
  simp only [padNumber, padText]
  generalize layout.width - (layout.signText negative ++ mark ++ digits).length = gap
  split
  · exact ⟨0, gap, 0, by simp⟩
  · split
    · exact ⟨0, 0, gap, by simp⟩
    · exact ⟨gap, 0, 0, by simp⟩

namespace Conversion

variable {spec : Conversion}

/-- The sign of an integer: a minus if it is negative, otherwise a plus if a flag asks for it. -/
def integerSign (spec : Conversion) (n : Int) : Text :=
  if n < 0 then lit "-" else if spec.flags.contains .plus then lit "+" else []

/-- Between the blanks, the text is the sign of an integer, the mark of the conversion, and digits
that read back as the integer. -/
def Prints (spec : Conversion) (base : Nat) (n : Int) (text : Text) : Prop :=
  ∃ digits, text.trimmed = spec.integerSign n ++ spec.mark ++ digits ∧
    Digits.read? base digits = some n.natAbs

theorem exists_signText_eq {layout : Layout} (hplus : layout.plus = spec.flags.contains .plus)
    (n : Int) : ∃ blanks, layout.signText (n < 0) =
      List.replicate blanks ' '.toNat ++ spec.integerSign n := by
  simp only [Layout.signText, integerSign, hplus, decide_eq_true_eq]
  split
  · exact ⟨0, rfl⟩
  · split
    · exact ⟨0, rfl⟩
    · split
      · exact ⟨1, rfl⟩
      · exact ⟨0, rfl⟩

theorem isWhitespace_of_mem_lead (spec : Conversion) (n : Int) :
    ∀ c ∈ spec.integerSign n ++ spec.mark, isWhitespace c = false := by
  refine List.forall_mem_append.mpr ⟨?_, ?_⟩
  · unfold integerSign
    split
    · decide
    · split <;> decide
  · unfold mark
    split
    · cases spec.letter <;> decide
    · decide

theorem prints_padNumber {layout : Layout} (hplus : layout.plus = spec.flags.contains .plus)
    {base : Nat} (hbase : 0 < base) {n : Int} {digits : Text}
    (h : Digits.read? base digits = some n.natAbs) :
    spec.Prints base n (layout.padNumber (n < 0) spec.mark digits) := by
  obtain ⟨before, zeros, behind, hnumber⟩ := layout.exists_padNumber_eq (n < 0) spec.mark digits
  obtain ⟨blanks, hsign⟩ := exists_signText_eq hplus n
  have hread := Digits.read?_zeros_append hbase h zeros
  refine ⟨_, ?_, hread⟩
  have hsolid := List.forall_mem_append.mpr
    ⟨spec.isWhitespace_of_mem_lead n, Digits.isWhitespace_of_read? hread⟩
  -- the blank that a flag puts for a plus is one of those in front
  have hblank := List.forall_mem_append.mpr
    ⟨Text.isWhitespace_of_mem_blanks before, Text.isWhitespace_of_mem_blanks blanks⟩
  rw [← Text.trimmed_append hblank hsolid (Text.isWhitespace_of_mem_blanks behind), hnumber, hsign]
  simp only [List.append_assoc]

theorem read?_magnitude (layout : Layout) {base : Nat} (hbase : 2 ≤ base) (hle : base ≤ 16)
    (n : Int) : Digits.read? base (magnitude layout base n) = some n.natAbs :=
  Digits.read?_zeros_append (by omega) (Digits.read?_numeral hbase hle n.natAbs) _

end Conversion

/-! ### The integers of values -/

/-- The value is an integer, which the truth values are too. -/
inductive Value.IsInteger : Value → Int → Prop
  | int (n : Int) : IsInteger (.int n) n
  | bool (b : Bool) : IsInteger (.bool b) b.toInt

/-- The value is a finite real number, and without its fraction it is an integer that can be written
in decimal digits.  A binary number of 64 bits always can. -/
inductive Value.TruncatesTo : Value → Int → Prop
  | int {n : Int} : ¬Digits.exceedsLimit n.natAbs → TruncatesTo (.int n) n
  | bool (b : Bool) : TruncatesTo (.bool b) b.toInt
  | float {negative : Bool} {mantissa : Nat} {exponent : Int} : mantissa < 2 ^ 53 →
      exponent ≤ Binary64.greatestExponent →
      TruncatesTo (.float (.finite negative mantissa exponent))
        (towardZero (Scaled.signedValue negative 2 mantissa exponent))
  | decimal {negative : Bool} {coefficient : Nat} {exponent : Int} {n : Int} :
      n = towardZero (Scaled.signedValue negative 10 coefficient exponent) →
      ¬Digits.exceedsLimit n.natAbs →
      TruncatesTo (.decimal (.finite negative coefficient exponent)) n

namespace Conversion

variable {spec : Conversion} {v : Value} {n : Int}

theorem integer_of_isInteger (h : v.IsInteger n) (letter : Letter) : integer letter v = .ok n := by
  cases h <;> rfl

theorem natAbs_signed (negative : Bool) (magnitude : Nat) :
    (signed negative magnitude).natAbs = magnitude := by
  cases negative <;> simp [signed]

theorem truncated_of_truncatesTo (h : v.TruncatesTo n) (letter : Letter) :
    truncated letter v = .ok n ∧ ¬Digits.exceedsLimit n.natAbs := by
  cases h with
  | int hlimit => exact ⟨rfl, hlimit⟩
  | bool b =>
    refine ⟨rfl, ?_⟩
    have hone : 1 < 10 ^ Digits.limit := Nat.one_lt_pow (by decide) (by decide)
    rw [Digits.exceedsLimit_iff]
    cases b
    · simp
    · simpa using hone
  | @float negative mantissa exponent hmantissa hexponent =>
    rw [← Scaled.signed_wholePart Nat.two_pos, natAbs_signed]
    exact ⟨rfl, Binary64.not_exceedsLimit_wholePart hmantissa hexponent⟩
  | @decimal negative coefficient exponent n hn hlimit =>
    refine ⟨?_, hlimit⟩
    rw [truncated, Decimal.wholePart_eq, Scaled.signed_wholePart (by decide), hn]

theorem mark_eq_ite (spec : Conversion) :
    (if spec.asciiLayout.alternate then spec.letter.mark else []) = spec.mark := rfl

/-- An integer in a base is printed as it is, if it has no more digits than can be written. -/
theorem exists_prints_inBase (hlimits : spec.WithinLimits)
    (hletter : spec.letter ∈ [.d, .i, .u, .o, .x, .X]) {base : Nat} (hbase : 2 ≤ base)
    (hle : base ≤ 16) (hn : ¬(base = 10 ∧ Digits.exceedsLimit n.natAbs)) :
    ∃ text, inBase spec.asciiLayout base spec.letter.mark n = .ok text ∧
      spec.Prints base n text := by
  have hread := read?_magnitude spec.asciiLayout hbase hle n
  exact ⟨_, inBase_eq_ok_iff.mpr ⟨hlimits.countable hletter, hn, rfl⟩,
    prints_padNumber rfl (by omega) hread⟩

/-- Digits in upper case read back as well. -/
theorem exists_prints_upper (hlimits : spec.WithinLimits) (hletter : spec.letter = .X) :
    ∃ text, (inBase spec.asciiLayout 16 (lit "0x") n).map asciiUpper = .ok text ∧
      spec.Prints 16 n text := by
  have hread : Digits.read? 16 (asciiUpper (magnitude spec.asciiLayout 16 n)) = some n.natAbs :=
    Digits.read?_asciiUpper (read?_magnitude _ (by decide) (by decide) n)
  have hmark : asciiUpper (if spec.asciiLayout.alternate then lit "0x" else []) = spec.mark := by
    rw [← mark_eq_ite, hletter]
    split <;> rfl
  have hwritten : inBase spec.asciiLayout 16 (lit "0x") n = .ok _ :=
    inBase_eq_ok_iff.mpr ⟨hlimits.countable (by simp [hletter]), by simp, rfl⟩
  refine ⟨_, congrArg (Except.map asciiUpper) hwritten, ?_⟩
  rw [Layout.asciiUpper_padNumber, hmark]
  exact prints_padNumber rfl (by decide) hread

/-- Integers are printed exactly.  Within the limits and with ASCII digits, whatever the flags, the
width and the precision, a real number whose fraction is cut off is printed in base 10, and an
integer in the bases 16 and 8: what stands between the blanks is a minus if it is negative,
otherwise a plus if that flag is set, the mark of the base if that flag is set, and digits that read
back as the integer. -/
theorem apply_prints_integer (hascii : spec.IsAscii) (hlimits : spec.WithinLimits) :
    (spec.letter ∈ [.d, .i, .u] → ∀ v n, v.TruncatesTo n →
      ∃ text, spec.apply v = .ok text ∧ spec.Prints 10 n text) ∧
    (spec.letter ∈ [.x, .X] → ∀ v n, v.IsInteger n →
      ∃ text, spec.apply v = .ok text ∧ spec.Prints 16 n text) ∧
    (spec.letter = .o → ∀ v n, v.IsInteger n →
      ∃ text, spec.apply v = .ok text ∧ spec.Prints 8 n text) := by
  refine ⟨fun hletter v n hv => ?_, fun hletter v n hv => ?_, fun hletter v n hv => ?_⟩
  · have hfill : fill spec.asciiLayout spec.letter v =
        inBase spec.asciiLayout 10 spec.letter.mark n := by
      simp only [List.mem_cons, List.not_mem_nil, or_false] at hletter
      rcases hletter with h | h | h <;>
        · rw [h, fill, (truncated_of_truncatesTo hv _).1]
          rfl
    rw [hascii.apply_eq_fill hlimits, hfill]
    refine exists_prints_inBase hlimits ?_ (by decide) (by decide) ?_
    · exact List.mem_append_left [.o, .x, .X] hletter
    · exact fun hlimit => (truncated_of_truncatesTo hv .d).2 hlimit.2
  · rw [hascii.apply_eq_fill hlimits]
    rcases List.mem_pair.mp hletter with h | h
    · have hfill : fill spec.asciiLayout spec.letter v =
          inBase spec.asciiLayout 16 spec.letter.mark n := by
        rw [h, fill, integer_of_isInteger hv]
        rfl
      rw [hfill]
      exact exists_prints_inBase hlimits (by simp [h]) (by decide) (by decide) (by simp)
    · have hfill : fill spec.asciiLayout spec.letter v =
          (inBase spec.asciiLayout 16 (lit "0x") n).map asciiUpper := by
        rw [h, fill, integer_of_isInteger hv]
        rfl
      rw [hfill]
      exact exists_prints_upper hlimits h
  · have hfill : fill spec.asciiLayout spec.letter v =
        inBase spec.asciiLayout 8 spec.letter.mark n := by
      rw [hletter, fill, integer_of_isInteger hv]
      rfl
    rw [hascii.apply_eq_fill hlimits, hfill]
    exact exists_prints_inBase hlimits (by simp [hletter]) (by decide) (by decide) (by simp)

/-- Zeros fill the width, and blanks behind a number in base 16. -/
theorem apply_prints_integer_filled :
    let spec : Conversion := ⟨[.plus, .zero], lit "6", some (lit "3"), .d⟩
    let spec' : Conversion := ⟨[.alternate, .left], lit "8", none, .X⟩
    let v : Value := .decimal (.finite true 25 (-1))
    spec.IsAscii ∧ spec.WithinLimits ∧ v.TruncatesTo (-2) ∧
      spec.apply v = .ok (lit "-00002") ∧ spec.Prints 10 (-2) (lit "-00002") ∧
    spec'.IsAscii ∧ spec'.WithinLimits ∧ Value.IsInteger (.int (-255)) (-255) ∧
      spec'.apply (.int (-255)) = .ok (lit "-0XFF   ") ∧
      spec'.Prints 16 (-255) (lit "-0XFF   ") := by
  intro spec spec' v
  have hascii : spec.IsAscii := ⟨by decide, by decide⟩
  have hlimits : spec.WithinLimits := ⟨by decide, by decide, by decide⟩
  have hascii' : spec'.IsAscii := ⟨by decide, by decide⟩
  have hlimits' : spec'.WithinLimits := ⟨by decide, by decide, by decide⟩
  have hlimit : ¬Digits.exceedsLimit (-2 : Int).natAbs := by
    have hlt : 2 < 10 ^ Digits.limit :=
      lt_of_lt_of_le (by decide : 2 < 10 ^ 1) (Nat.pow_le_pow_right (by decide) (by decide))
    rwa [Digits.exceedsLimit_iff, Nat.not_le]
  have htruncated : v.TruncatesTo (-2) := by
    refine .decimal ?_ hlimit
    norm_num [towardZero, Scaled.signedValue, Scaled.value]
  have hwritten : spec.apply v = .ok (lit "-00002") := by
    rw [hascii.apply_eq_fill hlimits]
    show (truncated .d v).bind (inBase spec.asciiLayout 10 []) = _
    rw [(truncated_of_truncatesTo htruncated .d).1, Except.bind]
    refine inBase_eq_ok_iff.mpr ⟨by decide, fun h => hlimit h.2, ?_⟩
    simp only [spec]
    cbv
  have hwritten' : spec'.apply (.int (-255)) = .ok (lit "-0XFF   ") := by
    simp only [spec']
    cbv
  obtain ⟨text, htext, hprints⟩ :=
    (apply_prints_integer hascii hlimits).1 (by decide) v (-2) htruncated
  obtain ⟨text', htext', hprints'⟩ :=
    (apply_prints_integer hascii' hlimits').2.1 (by decide) (.int (-255)) (-255) (.int _)
  cases hwritten.symm.trans htext
  cases hwritten'.symm.trans htext'
  exact ⟨hascii, hlimits, htruncated, hwritten, hprints, hascii', hlimits', .int _, hwritten',
    hprints'⟩

/-- A finite decimal can have more digits than can be written; and no integer can be written to a
width in digits of another script. -/
theorem apply_refuses_integer :
    Conversion.apply ⟨[], [], none, .d⟩ (.decimal (.finite false 1 4300)) =
      .error .tooManyDigits ∧
    Conversion.apply ⟨[], lit "\u0663", none, .d⟩ (.int 5) =
      .error (.unsupportedCharacter 0x663 1) := by
  refine ⟨?_, rfl⟩
  have hlong : Digits.exceedsLimit (signed false (Decimal.wholePart 1 4300)).natAbs := by
    rw [natAbs_signed, Decimal.wholePart_eq, Scaled.wholePart_eq_div, Scaled.fraction,
      if_pos (by decide), Digits.exceedsLimit_iff, Nat.div_one, Nat.one_mul, Nat.pow_eq]
    exact Nat.pow_le_pow_right (by decide) (by decide)
  refine ((IsAscii.bare .d).apply_eq_error_iff (WithinLimits.bare .d)).mpr ?_
  simp only [bare, fault?, truncated, if_pos hlong]

end Conversion

end Phrasebook
