import Phrasebook.Proofs.Conversion.Integer
import Phrasebook.Proofs.Number.Notation
import Phrasebook.Proofs.Number.Numeral

/-! Real numbers as conversions write them.  With a set number of places a binary number is written
as the nearest decimal of so many places, and in scientific notation as the nearest one of so many
significant digits; of two that are equally near, the last digit is even. -/

namespace Phrasebook

open Scaled (value)
open Text (lit asciiUpper)

/-! ### Numerals with a point -/

/-- A numeral has exactly `places` digits behind the point, at least one before it, and reads
without the point as `n`. -/
def WritesFixed (places n : Nat) (text : Text) : Prop :=
  ∃ whole fraction, text = whole ++ Text.pointed fraction ∧ whole ≠ [] ∧
    fraction.length = places ∧ Digits.read? 10 (whole ++ fraction) = some n

/-- A numeral has one digit before the point and exactly `places` behind it, which read without the
point as `n`; the mark of an exponent, its sign and at least two digits follow, which read as
`leading`. -/
def WritesScientific (mark places n : Nat) (leading : Int) (text : Text) : Prop :=
  ∃ first fraction digits, text = first :: Text.pointed fraction ++
      mark :: (if leading < 0 then '-'.toNat else '+'.toNat) :: digits ∧
    fraction.length = places ∧ Digits.read? 10 (first :: fraction) = some n ∧
    2 ≤ digits.length ∧ Digits.read? 10 digits = some leading.natAbs

namespace Text

theorem asciiUpper_of_lt {text : Text} (h : ∀ c ∈ text, c < 'a'.toNat) :
    asciiUpper text = text := by
  refine (List.map_congr_left fun c hc => ?_).trans (List.map_id text)
  exact if_neg fun hletter => absurd (h c hc) (Nat.not_lt.mpr hletter.1)

theorem lt_of_mem_pointed {digits : Text} (h : ∀ c ∈ digits, c < 'a'.toNat) :
    ∀ c ∈ pointed digits, c < 'a'.toNat := by
  cases digits with
  | nil => exact h
  | cons d digits => exact List.forall_mem_cons.mpr ⟨by decide, h⟩

theorem le_length_pointed (digits : Text) : digits.length ≤ (pointed digits).length := by
  cases digits with
  | nil => exact Nat.le_refl 0
  | cons d digits => exact Nat.le_succ _

/-- What no sign begins starts with a minus only if one is put before it. -/
theorem head?_minus_append {text : Text} (h : text.sign = []) (negative : Bool) :
    (minus negative ++ text).head? = some '-'.toNat ↔ negative := by
  cases negative with
  | true => exact iff_of_true rfl rfl
  | false =>
    refine iff_of_false (fun hhead => ?_) Bool.false_ne_true
    obtain ⟨rest, htext⟩ := List.head?_eq_some_iff.mp hhead
    have htext' : text = '-'.toNat :: rest := htext
    rw [htext'] at h
    cases h

end Text

/-- Decimal digits come before the letters. -/
theorem Digits.lt_of_read? {text : Text} {n : Nat} (h : read? 10 text = some n) :
    ∀ c ∈ text, c < 'a'.toNat := by
  intro c hc
  obtain ⟨d, hhex, hd⟩ := exists_digit_of_read? h c hc
  simp only [QuotedString.IsHex, Char.reduceToNat] at hhex ⊢
  omega

/-- A number without letters has no case. -/
theorem WritesFixed.asciiUpper_eq {places n : Nat} {text : Text} (h : WritesFixed places n text) :
    asciiUpper text = text := by
  obtain ⟨whole, fraction, rfl, -, -, hread⟩ := h
  have hdigits := List.forall_mem_append.mp (Digits.lt_of_read? hread)
  exact Text.asciiUpper_of_lt
    (List.forall_mem_append.mpr ⟨hdigits.1, Text.lt_of_mem_pointed hdigits.2⟩)

/-- With a set number of places, a text writes one number. -/
theorem WritesFixed.unique {places n m : Nat} {text : Text} (h : WritesFixed places n text)
    (h' : WritesFixed places m text) : n = m := by
  obtain ⟨whole, fraction, rfl, -, hlength, hread⟩ := h
  obtain ⟨whole', fraction', htext, -, hlength', hread'⟩ := h'
  obtain ⟨rfl, rfl⟩ : whole = whole' ∧ fraction = fraction' := by
    cases fraction with
    | nil =>
      obtain rfl := List.eq_nil_of_length_eq_zero (hlength'.trans hlength.symm)
      exact ⟨List.append_cancel_right htext, rfl⟩
    | cons d digits =>
      obtain ⟨d', digits', rfl⟩ := List.exists_cons_of_length_eq_add_one
        (hlength'.trans hlength.symm)
      obtain ⟨hwhole, hdigits⟩ := List.append_inj' htext (by
        simpa [Text.pointed] using hlength.trans hlength'.symm)
      exact ⟨hwhole, (List.cons.inj hdigits).2⟩
  exact Option.some.inj (hread.symm.trans hread')

/-- In scientific notation only the mark of the exponent has a case. -/
theorem WritesScientific.asciiUpper {places n : Nat} {leading : Int} {text : Text}
    (h : WritesScientific 'e'.toNat places n leading text) :
    WritesScientific 'E'.toNat places n leading (Text.asciiUpper text) := by
  obtain ⟨first, fraction, digits, rfl, hlength, hread, htwo, hexponent⟩ := h
  refine ⟨first, fraction, digits, ?_, hlength, hread, htwo, hexponent⟩
  have hdigits := List.forall_mem_cons.mp (Digits.lt_of_read? hread)
  have hmantissa := Text.asciiUpper_of_lt
    (List.forall_mem_cons.mpr ⟨hdigits.1, Text.lt_of_mem_pointed hdigits.2⟩)
  have hsign : ∀ c ∈ (if leading < 0 then '-'.toNat else '+'.toNat) :: digits, c < 'a'.toNat := by
    refine List.forall_mem_cons.mpr ⟨?_, Digits.lt_of_read? hexponent⟩
    split <;> decide
  rw [Text.asciiUpper_append, hmantissa]
  exact congrArg (first :: Text.pointed fraction ++ 'E'.toNat :: ·) (Text.asciiUpper_of_lt hsign)

namespace Notation

theorem writesFixed_withPlaces (n places : Nat) :
    WritesFixed places n (withPlaces n places false) := by
  unfold withPlaces
  simp only
  have hread : Digits.read? 10 (List.replicate (places + 1 - (Text.numeral 10 n).length) '0'.toNat ++
      Text.numeral 10 n) = some n :=
    Digits.read?_zeros_append (by decide) (Digits.read?_numeral (by decide) (by decide) n) _
  have hlength : places + 1 ≤
      (List.replicate (places + 1 - (Text.numeral 10 n).length) '0'.toNat ++
        Text.numeral 10 n).length := by
    rw [List.length_append, List.length_replicate]
    omega
  generalize List.replicate (places + 1 - (Text.numeral 10 n).length) '0'.toNat ++
    Text.numeral 10 n = digits at hread hlength
  -- the digits are cut where as many are left as there are places
  have hwhole : digits.take (digits.length - places) ≠ [] := by
    refine List.ne_nil_of_length_pos ?_
    rw [List.length_take]
    omega
  have hfraction : (digits.drop (digits.length - places)).length = places := by
    rw [List.length_drop]
    omega
  refine ⟨_, _, ?_, hwhole, hfraction, by rw [List.take_append_drop]; exact hread⟩
  split
  · next hzero =>
    rw [List.eq_nil_of_length_eq_zero (hfraction.trans hzero)]
    exact (List.append_nil _).symm
  · next hsome =>
    have hne : digits.drop (digits.length - places) ≠ [] :=
      List.ne_nil_of_length_pos (by omega)
    rw [Text.pointed_of_ne_nil hne]

theorem leadingPoint_cons (d : Nat) (digits : List Nat) :
    leadingPoint (d :: digits) false = Digits.character d :: Text.pointed (Digits.text digits) := by
  cases digits <;> rfl

theorem writesScientific_append {digits : List Nat} {places : Nat}
    (hlength : digits.length = places + 1) (hdigits : ∀ d ∈ digits, d < 10) (leading : Int) :
    WritesScientific 'e'.toNat places (Digits.toNat 10 digits) leading
      (leadingPoint digits false ++ exponentMark leading) := by
  obtain ⟨d, digits, rfl⟩ := List.exists_cons_of_length_eq_add_one hlength
  rw [leadingPoint_cons]
  refine ⟨_, _, _, rfl, ?_, Digits.read?_text (by decide) (List.cons_ne_nil d digits) hdigits, ?_,
    Digits.read?_zeros_append (by decide) (Digits.read?_numeral (by decide) (by decide) _) _⟩
  · rw [Digits.length_text]
    exact Nat.succ_injective hlength
  · rw [List.length_append, List.length_replicate]
    omega

/-- With a set number of places, a binary number is written as the nearest decimal. -/
theorem exists_writesFixed (mantissa : Nat) (exponent : Int) (places : Nat) :
    ∃ n, WritesFixed places n (fixed mantissa exponent places false) ∧
      Rounds ((10 : ℚ) ^ (-(places : Int))) (value 2 mantissa exponent) n :=
  ⟨_, writesFixed_withPlaces _ places, rounds_toPlaces mantissa exponent places⟩

/-- In scientific notation, a binary number is rounded to the digits that are written. -/
theorem exists_writesScientific (mantissa : Nat) (exponent : Int) (places : Nat) :
    ∃ n leading, WritesScientific 'e'.toNat places n leading
        (scientific mantissa exponent places false) ∧
      RoundsToDigits places (value 2 mantissa exponent) n leading := by
  obtain ⟨kept, leading, hdigits, hcount, hrounds⟩ := significant_spec mantissa exponent places
  obtain ⟨hlength, hlt, hvalue⟩ := padded_ofNat hcount
  have hwrites := writesScientific_append hlength hlt leading
  rw [hvalue] at hwrites
  refine ⟨_, leading, ?_, hrounds⟩
  rw [scientific, hdigits]
  exact hwrites

end Notation

namespace Conversion

variable {spec : Conversion}

/-- The digits behind the point that a conversion asks for, which are six if it does not say. -/
def places (spec : Conversion) : Nat := (spec.precision.map Scientific.ofDigits).getD 6

theorem WithinLimits.places_le (h : spec.WithinLimits) :
    spec.places ≤ Layout.greatestPrecision := by
  unfold places
  cases hprecision : spec.precision with
  | none => decide
  | some digits => exact h.precision digits hprecision

/-- Without flags and a width, a number is laid out as a minus, if it is negative, and its digits. -/
theorem padNumber_bare (hflags : spec.flags = []) (hwidth : spec.width = []) (negative : Bool)
    (digits : Text) :
    spec.asciiLayout.padNumber negative [] digits = Text.minus negative ++ digits := by
  simp [asciiLayout, laidOut, hflags, hwidth, Layout.padNumber, Layout.padText, Layout.signText,
    Scientific.ofDigits, Digits.toNat, Text.minus]

/-- The digits of a number in a style, in upper case if that is asked for. -/
def realDigits (spec : Conversion) (style : RealStyle) (upper : Bool) (mantissa : Nat)
    (exponent : Int) : Text :=
  if upper then asciiUpper (style.written mantissa exponent spec.places false)
  else style.written mantissa exponent spec.places false

theorem sign_realDigits (spec : Conversion) (style : RealStyle) (upper : Bool) (mantissa : Nat)
    (exponent : Int) : (spec.realDigits style upper mantissa exponent).sign = [] := by
  have hwritten := style.sign_written mantissa exponent spec.places false
  unfold realDigits
  split
  · exact Text.sign_asciiUpper hwritten
  · exact hwritten

theorem apply_finite (hascii : spec.IsAscii) (hlimits : spec.WithinLimits)
    (hflags : spec.flags = []) (hwidth : spec.width = []) (style : RealStyle) (upper : Bool)
    (hstyle : ∀ layout v, fill layout spec.letter v = (real v).map (inStyle layout style upper))
    (negative : Bool) (mantissa : Nat) (exponent : Int) :
    spec.apply (.float (.finite negative mantissa exponent)) =
      .ok (Text.minus negative ++ spec.realDigits style upper mantissa exponent) := by
  have hpoint : spec.asciiLayout.alternate = false := by
    show spec.flags.contains .alternate = false
    rw [hflags]
    rfl
  rw [hascii.apply_eq_fill hlimits, hstyle]
  refine congrArg Except.ok ?_
  rw [inStyle, hpoint, padNumber_bare hflags hwidth]
  rfl

/-- A text of `places` digits behind the point that is nearest to `x`, of two the one with the even
last digit. -/
def RoundsFixed (places : Nat) (x : ℚ) (text : Text) : Prop :=
  ∃ n, WritesFixed places n text ∧ Rounds ((10 : ℚ) ^ (-(places : Int))) x n

/-- Numbers that are rounded to one text are no further apart than a unit of its last place. -/
theorem RoundsFixed.near {places : Nat} {x y : ℚ} {text : Text} (h : RoundsFixed places x text)
    (h' : RoundsFixed places y text) : |x - y| ≤ (10 : ℚ) ^ (-(places : Int)) := by
  obtain ⟨n, hwrites, hrounds⟩ := h
  obtain ⟨m, hwrites', hrounds'⟩ := h'
  obtain rfl := hwrites.unique hwrites'
  have hx := hrounds.near
  have hy := hrounds'.near
  rw [abs_le] at hx hy ⊢
  constructor <;> linarith

/-- A text in scientific notation with `places` digits behind the point.  Its digits are `x` rounded
to so many, its leading digit is zero for zero only, and no number of as many digits is nearer. -/
def RoundsScientific (mark places : Nat) (x : ℚ) (text : Text) : Prop :=
  ∃ n leading, WritesScientific mark places n leading text ∧ RoundsToDigits places x n leading ∧
    n < 10 ^ (places + 1) ∧ (x ≠ 0 → 10 ^ places ≤ n) ∧ (x = 0 → n = 0 ∧ leading = 0) ∧
    ∀ m exponent, m < 10 ^ (places + 1) →
      |value 10 n (leading - places) - x| ≤ |value 10 m exponent - x|

theorem roundsScientific {mark places n : Nat} {x : ℚ} {leading : Int} {text : Text}
    (h : WritesScientific mark places n leading text) (hrounds : RoundsToDigits places x n leading) :
    RoundsScientific mark places x text :=
  ⟨n, leading, h, hrounds, hrounds.lt, hrounds.le, hrounds.eq_zero,
    fun _ exponent hm => hrounds.nearest hm exponent⟩

/-- The digits of `x` before the point can be counted with the places behind it, or need not be
counted because `x` is a small whole number. -/
def IsCounted (places : Nat) (x : ℚ) : Prop :=
  x < 10 ^ (Layout.greatestPrecision - places) ∨ ∃ n : Nat, x = n ∧ n < 10 ^ 15

/-- Where a number is rounded to what zero is rounded to, it is so small that its digits can be
counted. -/
theorem RoundsFixed.isCounted {places : Nat} {x : ℚ} {text : Text} (h : RoundsFixed places x text)
    (hzero : RoundsFixed places 0 text) : IsCounted places x := by
  have hunit : (10 : ℚ) ^ (-(places : Int)) ≤ 1 :=
    zpow_le_one_of_nonpos₀ (by norm_num) (by omega)
  have hnear := h.near hzero
  rw [sub_zero] at hnear
  have hle : x ≤ 1 := (le_abs_self x).trans (hnear.trans hunit)
  have hroom : (1 : ℚ) ≤ 10 ^ (Layout.greatestPrecision - places) := one_le_pow₀ (by norm_num)
  rcases hle.lt_or_eq with hlt | heq
  · exact .inl (hlt.trans_le hroom)
  · exact .inr ⟨1, by rw [heq, Nat.cast_one], by norm_num⟩

theorem canCount_iff {places : Nat} (hplaces : places ≤ Layout.greatestPrecision) (mantissa : Nat)
    (exponent : Int) :
    canCount mantissa exponent places ↔ IsCounted places (value 2 mantissa exponent) := by
  obtain ⟨room, hroom⟩ := Nat.exists_eq_add_of_le hplaces
  have hdigits (whole : Nat) :
      whole = 0 ∨ places + Digits.count whole ≤ Layout.greatestPrecision ↔ whole < 10 ^ room := by
    have hpos := Digits.count_pos whole
    rw [hroom, Nat.add_le_add_iff_left]
    cases room with
    | zero =>
      rw [Nat.pow_zero, Nat.lt_one_iff]
      omega
    | succ room =>
      rw [Digits.count_le_iff]
      refine or_iff_right_of_imp ?_
      rintro rfl
      exact Nat.pow_pos (by decide)
  have hwhole : Scaled.wholePart 2 mantissa exponent < 10 ^ room ↔
      value 2 mantissa exponent < 10 ^ room := by
    rw [← Int.ofNat_lt, Scaled.wholePart_eq_floor Nat.two_pos, Int.floor_lt]
    norm_cast
  unfold canCount IsCounted
  rw [decide_eq_true_iff, ← or_assoc, hdigits, hwhole, hroom, Nat.add_sub_cancel_left]
  refine or_congr_right ⟨fun ⟨hnatural, hlt⟩ => ⟨_, ?_, hlt⟩, ?_⟩
  · exact (Scaled.value_eq_iff Nat.two_pos).mpr ⟨hnatural, rfl⟩
  · rintro ⟨n, hvalue, hlt⟩
    obtain ⟨hnatural, rfl⟩ := (Scaled.value_eq_iff Nat.two_pos).mp hvalue
    exact ⟨hnatural, hlt⟩

/-- A number is rounded if and only if its digits can be counted; else zero is written in its
place. -/
theorem roundsFixed_written (mantissa : Nat) (exponent : Int) {places : Nat}
    (hplaces : places ≤ Layout.greatestPrecision) :
    let x := value 2 mantissa exponent
    let text := RealStyle.fixed.written mantissa exponent places false
    asciiUpper text = text ∧ (RoundsFixed places x text ↔ IsCounted places x) ∧
      (¬IsCounted places x → RoundsFixed places 0 text) := by
  obtain ⟨n, hwrites, hrounds⟩ := Notation.exists_writesFixed mantissa exponent places
  obtain ⟨m, hwrites', hrounds'⟩ := Notation.exists_writesFixed 0 0 places
  have hvalue : value 2 0 0 = 0 := by simp [value]
  rw [hvalue] at hrounds'
  simp only [RealStyle.written, ← canCount_iff hplaces]
  split
  · next hcount =>
    exact ⟨hwrites.asciiUpper_eq, iff_of_true ⟨n, hwrites, hrounds⟩ hcount, absurd hcount⟩
  · next hcount =>
    have hzero : RoundsFixed places 0 (Notation.fixed 0 0 places false) := ⟨m, hwrites', hrounds'⟩
    refine ⟨hwrites'.asciiUpper_eq, iff_of_false (fun hfixed => hcount ?_) hcount, fun _ => hzero⟩
    exact (canCount_iff hplaces mantissa exponent).mpr (hfixed.isCounted hzero)

theorem roundsScientific_written (mantissa : Nat) (exponent : Int) (places : Nat) :
    RoundsScientific 'e'.toNat (scientificPlaces places) (value 2 mantissa exponent)
        (RealStyle.scientific.written mantissa exponent places false) ∧
      RoundsScientific 'E'.toNat (scientificPlaces places) (value 2 mantissa exponent)
        (asciiUpper (RealStyle.scientific.written mantissa exponent places false)) := by
  obtain ⟨n, leading, hwrites, hrounds⟩ :=
    Notation.exists_writesScientific mantissa exponent (scientificPlaces places)
  exact ⟨roundsScientific hwrites hrounds, roundsScientific hwrites.asciiUpper hrounds⟩

section

variable (hascii : spec.IsAscii) (hlimits : spec.WithinLimits) (hflags : spec.flags = [])
  (hwidth : spec.width = [])

include hascii hlimits hflags hwidth

/-- What a style writes behind the sign, which is a minus for negative numbers only. -/
theorem exists_apply_eq (style : RealStyle) (upper : Bool)
    (hstyle : ∀ layout v, fill layout spec.letter v = (real v).map (inStyle layout style upper))
    (negative : Bool) (mantissa : Nat) (exponent : Int) :
    ∃ digits, digits = spec.realDigits style upper mantissa exponent ∧
      spec.apply (.float (.finite negative mantissa exponent)) =
        .ok (Text.minus negative ++ digits) ∧
      ((Text.minus negative ++ digits).head? = some '-'.toNat ↔ negative) :=
  ⟨_, rfl, apply_finite hascii hlimits hflags hwidth style upper hstyle negative mantissa exponent,
    Text.head?_minus_append (spec.sign_realDigits style upper mantissa exponent) negative⟩

/-- A number in fixed notation. -/
theorem apply_rounds_fixed (hletter : spec.letter ∈ [.f, .F]) (negative : Bool) (mantissa : Nat)
    (exponent : Int) :
    ∃ digits, spec.apply (.float (.finite negative mantissa exponent)) =
        .ok (Text.minus negative ++ digits) ∧
      ((Text.minus negative ++ digits).head? = some '-'.toNat ↔ negative) ∧
      (RoundsFixed spec.places (value 2 mantissa exponent) digits ↔
        IsCounted spec.places (value 2 mantissa exponent)) ∧
      (¬IsCounted spec.places (value 2 mantissa exponent) → RoundsFixed spec.places 0 digits) := by
  obtain ⟨hcase, hfixed⟩ := roundsFixed_written mantissa exponent hlimits.places_le
  rcases List.mem_pair.mp hletter with h | h
  · obtain ⟨_, rfl, happly⟩ := exists_apply_eq hascii hlimits hflags hwidth .fixed false
      (fun _ _ => by rw [h]; rfl) negative mantissa exponent
    exact ⟨_, happly.1, happly.2, hfixed⟩
  · obtain ⟨_, rfl, happly⟩ := exists_apply_eq hascii hlimits hflags hwidth .fixed true
      (fun _ _ => by rw [h]; rfl) negative mantissa exponent
    refine ⟨_, happly.1, happly.2, ?_⟩
    rw [realDigits, if_pos rfl, hcase]
    exact hfixed

/-- A number in scientific notation. -/
theorem apply_rounds_scientific (hletter : spec.letter ∈ [.e, .E]) (negative : Bool)
    (mantissa : Nat) (exponent : Int) :
    ∃ digits, spec.apply (.float (.finite negative mantissa exponent)) =
        .ok (Text.minus negative ++ digits) ∧
      ((Text.minus negative ++ digits).head? = some '-'.toNat ↔ negative) ∧
      RoundsScientific spec.letter.character (scientificPlaces spec.places)
        (value 2 mantissa exponent) digits := by
  obtain ⟨hlower, hupper⟩ := roundsScientific_written mantissa exponent spec.places
  rcases List.mem_pair.mp hletter with h | h
  · obtain ⟨_, rfl, happly⟩ := exists_apply_eq hascii hlimits hflags hwidth .scientific false
      (fun _ _ => by rw [h]; rfl) negative mantissa exponent
    refine ⟨_, happly.1, happly.2, ?_⟩
    rw [h]
    exact hlower
  · obtain ⟨_, rfl, happly⟩ := exists_apply_eq hascii hlimits hflags hwidth .scientific true
      (fun _ _ => by rw [h]; rfl) negative mantissa exponent
    refine ⟨_, happly.1, happly.2, ?_⟩
    rw [h]
    exact hupper

/-- Real numbers are rounded correctly, as long as their digits can be counted.  Without flags and a
width, a finite binary number is written as a minus, if it is negative or the negative zero, and as
a decimal with exactly the places that are asked for: in fixed notation it is the nearest of that
many places, in scientific notation the nearest of that many digits behind the leading one.  Where
the digits before the point and behind it pass the end of the range, fixed notation writes zero; and
at the greatest precision scientific notation has no digits behind the leading one. -/
theorem apply_rounds (hletter : spec.letter ∈ [.f, .F, .e, .E]) (negative : Bool) (mantissa : Nat)
    (exponent : Int) :
    ∃ digits, spec.apply (.float (.finite negative mantissa exponent)) =
        .ok (Text.minus negative ++ digits) ∧
      ((Text.minus negative ++ digits).head? = some '-'.toNat ↔ negative) ∧
      (spec.letter ∈ [.f, .F] →
        (RoundsFixed spec.places (value 2 mantissa exponent) digits ↔
          IsCounted spec.places (value 2 mantissa exponent)) ∧
        (¬IsCounted spec.places (value 2 mantissa exponent) →
          RoundsFixed spec.places 0 digits)) ∧
      (spec.letter ∈ [.e, .E] → spec.places < Layout.greatestPrecision →
        RoundsScientific spec.letter.character spec.places (value 2 mantissa exponent) digits) ∧
      (spec.letter ∈ [.e, .E] → spec.places = Layout.greatestPrecision →
        RoundsScientific spec.letter.character 0 (value 2 mantissa exponent) digits) := by
  have hcases : spec.letter ∈ [.f, .F] ∨ spec.letter ∈ [.e, .E] := List.mem_append.mp hletter
  rcases hcases with h | h
  · obtain ⟨digits, happly, hminus, hfixed⟩ :=
      apply_rounds_fixed hascii hlimits hflags hwidth h negative mantissa exponent
    have hother : spec.letter ∉ [.e, .E] := by
      rcases List.mem_pair.mp h with h | h <;> simp [h]
    exact ⟨digits, happly, hminus, fun _ => hfixed, fun h' => absurd h' hother,
      fun h' => absurd h' hother⟩
  · obtain ⟨digits, happly, hminus, hrounds⟩ :=
      apply_rounds_scientific hascii hlimits hflags hwidth h negative mantissa exponent
    have hother : spec.letter ∉ [.f, .F] := by
      rcases List.mem_pair.mp h with h | h <;> simp [h]
    refine ⟨digits, happly, hminus, fun h' => absurd h' hother, fun _ hplaces => ?_,
      fun _ hplaces => ?_⟩
    · rwa [scientificPlaces, if_neg hplaces.ne] at hrounds
    · rwa [scientificPlaces, if_pos hplaces] at hrounds

end

theorem eq_ok_of_toOption {result : Except Fault Text} {text : Text}
    (h : result.toOption = some text) : result = .ok text := by
  cases result <;> cases h
  rfl

/-- Half-way numbers: the digit that is left is even, unless the carry cuts it off. -/
theorem apply_rounds_half :
    let spec : Conversion := ⟨[], [], some [], .e⟩
    let spec' : Conversion := ⟨[], [], some (lit "1"), .F⟩
    spec.IsAscii ∧ spec.WithinLimits ∧ spec.flags = [] ∧ spec.width = [] ∧
      spec.letter ∈ [.f, .F, .e, .E] ∧ spec.places < Layout.greatestPrecision ∧
      spec.apply (.float (.finite true 19 (-1))) = .ok (lit "-1e+01") ∧
      RoundsScientific 'e'.toNat 0 (value 2 19 (-1)) (lit "1e+01") ∧
    spec'.IsAscii ∧ spec'.WithinLimits ∧ spec'.flags = [] ∧ spec'.width = [] ∧
      spec'.letter ∈ [.f, .F, .e, .E] ∧ IsCounted spec'.places (value 2 9 (-2)) ∧
      spec'.apply (.float (.finite false 9 (-2))) = .ok (lit "2.2") ∧
      RoundsFixed 1 (value 2 9 (-2)) (lit "2.2") := by
  intro spec spec'
  have hascii : spec.IsAscii := ⟨by decide, by decide⟩
  have hlimits : spec.WithinLimits := ⟨by decide, by decide, by decide⟩
  have hascii' : spec'.IsAscii := ⟨by decide, by decide⟩
  have hlimits' : spec'.WithinLimits := ⟨by decide, by decide, by decide⟩
  have hletter : spec.letter ∈ [.f, .F, .e, .E] := by decide
  have hletter' : spec'.letter ∈ [.f, .F, .e, .E] := by decide
  have hplaces : spec.places < Layout.greatestPrecision := by decide
  have hcounted : IsCounted spec'.places (value 2 9 (-2)) := by
    have hroom : 1 ≤ Layout.greatestPrecision - spec'.places := by decide
    refine .inl (lt_of_lt_of_le ?_ (pow_le_pow_right₀ (by norm_num) hroom))
    norm_num [value]
  have hwritten : spec.apply (.float (.finite true 19 (-1))) = .ok (lit "-1e+01") :=
    eq_ok_of_toOption (by decide +kernel)
  have hwritten' : spec'.apply (.float (.finite false 9 (-2))) = .ok (lit "2.2") :=
    eq_ok_of_toOption (by decide +kernel)
  obtain ⟨digits, happly, -, -, hrounds, -⟩ :=
    apply_rounds hascii hlimits rfl rfl hletter true 19 (-1)
  obtain ⟨digits', happly', -, hrounds', -, -⟩ :=
    apply_rounds hascii' hlimits' rfl rfl hletter' false 9 (-2)
  have hdigits : digits = lit "1e+01" :=
    List.tail_eq_of_cons_eq (Except.ok.inj (happly.symm.trans hwritten))
  have hdigits' : digits' = lit "2.2" := Except.ok.inj (happly'.symm.trans hwritten')
  rw [hdigits] at hrounds
  rw [hdigits'] at hrounds'
  exact ⟨hascii, hlimits, rfl, rfl, hletter, hplaces, hwritten,
    hrounds (by decide) hplaces, hascii', hlimits', rfl, rfl, hletter', hcounted, hwritten',
    (hrounds' (by decide)).1.mpr hcounted⟩

/-- One and a half to the greatest precision.  In scientific notation it has no place behind the
leading digit, whatever it is to stand for; in fixed notation it is not what is written.  And it
cannot be written to a precision in digits of another script. -/
theorem apply_rounds_greatest :
    let spec : Conversion := ⟨[], [], some (lit "2147483647"), .e⟩
    let spec' : Conversion := ⟨[], [], some (lit "2147483647"), .f⟩
    let v := Value.float (.finite false 3 (-1))
    spec.IsAscii ∧ spec.WithinLimits ∧ spec'.IsAscii ∧ spec'.WithinLimits ∧
      spec.apply v = .ok (lit "2e+00") ∧
      (∀ x, ¬RoundsScientific 'e'.toNat spec.places x (lit "2e+00")) ∧
      (∃ digits, spec'.apply v = .ok digits ∧
        ¬RoundsFixed spec'.places (value 2 3 (-1)) digits) ∧
      Conversion.apply ⟨[], [], some (lit "\u0663"), .f⟩ v =
        .error (.unsupportedCharacter 0x663 2) := by
  intro spec spec' v
  have hascii : spec.IsAscii := ⟨by decide, by decide⟩
  have hlimits : spec.WithinLimits := ⟨by decide, by decide, by decide⟩
  have hascii' : spec'.IsAscii := ⟨by decide, by decide⟩
  have hlimits' : spec'.WithinLimits := ⟨by decide, by decide, by decide⟩
  have hwritten : spec.apply v = .ok (lit "2e+00") := eq_ok_of_toOption (by decide +kernel)
  refine ⟨hascii, hlimits, hascii', hlimits', hwritten, fun x hrounds => ?_, ?_, rfl⟩
  · obtain ⟨n, leading, ⟨first, fraction, digits, htext, hfraction, -⟩, -⟩ := hrounds
    have hplaces : spec.places = 2147483647 := by decide
    have hle := Text.le_length_pointed fraction
    have hlength : 5 = (first :: Text.pointed fraction ++ 'e'.toNat ::
        (if leading < 0 then '-'.toNat else '+'.toNat) :: digits).length :=
      congrArg List.length htext
    rw [List.length_append, List.length_cons] at hlength
    omega
  · obtain ⟨digits, happly, -, hfixed, -⟩ :=
      apply_rounds_fixed hascii' hlimits' rfl rfl (by decide) false 3 (-1)
    refine ⟨digits, happly, fun hrounds => ?_⟩
    have hplaces : spec'.places = Layout.greatestPrecision := by decide
    have hvalue : value 2 3 (-1) = 3 / 2 := by norm_num [value]
    have hcounted := hfixed.mp hrounds
    rw [IsCounted, hplaces, Nat.sub_self, pow_zero, hvalue] at hcounted
    rcases hcounted with hlt | ⟨n, hn, -⟩
    · norm_num at hlt
    · have htwice : (3 : ℚ) = 2 * n := by
        rw [← hn]
        norm_num
      have hnatural : 3 = 2 * n := by exact_mod_cast htwice
      omega

end Conversion

end Phrasebook
