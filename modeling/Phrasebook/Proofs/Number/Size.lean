import Mathlib.Algebra.Order.Field.Power
import Mathlib.Tactic.FieldSimp
import Mathlib.Tactic.Linarith
import Mathlib.Tactic.NormNum
import Mathlib.Tactic.Positivity
import Mathlib.Tactic.Ring
import Phrasebook.Number.Decimal
import Phrasebook.Number.Shortest

/-! How large numbers are.  Rounding to the working precision at most doubles a number, and only
huge ones are past the range; the shortest digits of a binary number with a fraction are bounded by
its mantissa. -/

namespace Phrasebook

namespace Scaled

/-- The number `n * base ^ exponent`. -/
def value (base n : Nat) (exponent : Int) : ℚ := n * (base : ℚ) ^ exponent

theorem fraction_snd_pos {base : Nat} (hbase : 0 < base) (n : Nat) (exponent : Int) :
    0 < (fraction base n exponent).2 := by
  unfold fraction
  split
  · exact Nat.one_pos
  · exact Nat.pow_pos hbase

theorem fraction_fst {base : Nat} (hbase : 0 < base) (n : Nat) (exponent : Int) :
    ((fraction base n exponent).1 : ℚ) = value base n exponent * (fraction base n exponent).2 := by
  have hne : (base : ℚ) ≠ 0 := by positivity
  unfold fraction value
  split
  · next hexponent =>
    obtain ⟨k, rfl⟩ := Int.eq_ofNat_of_zero_le hexponent
    simp
  · next hexponent =>
    obtain ⟨k, hk⟩ := Int.eq_ofNat_of_zero_le (show 0 ≤ -exponent by omega)
    obtain rfl : exponent = -(k : Int) := by omega
    simp [hne]

theorem fraction_neg_succ (base n k : Nat) :
    fraction base n (-(k : Int) - 1) = (n, base ^ (k + 1)) := by
  rw [fraction, if_neg (by omega), show (-(-(k : Int) - 1)).toNat = k + 1 by omega]
  rfl

theorem isWhole_iff {base n : Nat} {exponent : Int} : isWhole base n exponent ↔
    (fraction base n exponent).1 % (fraction base n exponent).2 = 0 := beq_iff_eq

/-- A number that is not whole is positive, and the power divides. -/
theorem of_not_isWhole {base n : Nat} {exponent : Int} (h : ¬isWhole base n exponent) :
    n ≠ 0 ∧ exponent < 0 := by
  rw [isWhole_iff] at h
  unfold fraction at h
  split at h
  · exact absurd (Nat.mod_one _) h
  · next hexponent =>
    refine ⟨?_, not_le.mp hexponent⟩
    rintro rfl
    exact h (Nat.zero_mod _)

/-- A number is natural if and only if it has no fraction and is what is left without one. -/
theorem value_eq_iff {base : Nat} (hbase : 0 < base) {n k : Nat} {exponent : Int} :
    value base n exponent = k ↔ isWhole base n exponent ∧ wholePart base n exponent = k := by
  have hden := fraction_snd_pos hbase n exponent
  have hpos : (0 : ℚ) < (fraction base n exponent).2 := Nat.cast_pos.mpr hden
  have hproduct : value base n exponent = k ↔
      (fraction base n exponent).1 = k * (fraction base n exponent).2 := by
    rw [← Nat.cast_inj (R := ℚ), Nat.cast_mul, fraction_fst hbase, mul_left_inj' hpos.ne']
  rw [hproduct, isWhole_iff]
  show _ ↔ _ ∧ (fraction base n exponent).1 / (fraction base n exponent).2 = k
  constructor
  · intro heq
    rw [heq]
    exact ⟨Nat.mul_mod_left _ _, Nat.mul_div_cancel k hden⟩
  · rintro ⟨hwhole, rfl⟩
    exact (Nat.div_mul_cancel (Nat.dvd_of_mod_eq_zero hwhole)).symm

end Scaled

namespace Digits

theorem count_of_lt {n : Nat} (h : n < 10) : count n = 1 := by
  rw [count, ofNat_eq, if_pos (.inl h)]
  rfl

theorem count_of_le {n : Nat} (h : 10 ≤ n) : count n = count (n / 10) + 1 := by
  rw [count, ofNat_eq, if_neg (by omega), List.length_append]
  rfl

theorem count_pos (n : Nat) : 0 < count n := List.length_pos_iff.mpr (ofNat_ne_nil 10 n)

theorem lt_pow_count (n : Nat) : n < 10 ^ count n := by
  induction n using Nat.strongRecOn with
  | _ n ih =>
    by_cases hn : n < 10
    · rw [count_of_lt hn]
      exact hn
    · have hquotient := ih (n / 10) (by omega)
      rw [count_of_le (by omega), Nat.pow_succ]
      omega

/-- A number has at least the size of the leading digit. -/
theorem le_of_count {n : Nat} (h : n ≠ 0) : 10 ^ (count n - 1) ≤ n := by
  induction n using Nat.strongRecOn with
  | _ n ih =>
    by_cases hn : n < 10
    · rw [count_of_lt hn]
      exact Nat.pos_of_ne_zero h
    · have hquotient := ih (n / 10) (by omega) (by omega)
      obtain ⟨k, hk⟩ := Nat.exists_eq_add_of_lt (count_pos (n / 10))
      rw [count_of_le (by omega), Nat.add_sub_cancel]
      rw [hk, Nat.add_sub_cancel] at hquotient
      rw [hk, Nat.pow_succ]
      omega

end Digits

namespace Decimal

open Scaled (value)

theorem le_value_of_count {coefficient : Nat} (h : coefficient ≠ 0) (exponent : Int) :
    (10 : ℚ) ^ (exponent + Digits.count coefficient - 1) ≤ value 10 coefficient exponent := by
  have hpos := Digits.count_pos coefficient
  have hcount : ((10 ^ (Digits.count coefficient - 1) : Nat) : ℚ) ≤ coefficient :=
    Nat.cast_le.mpr (Digits.le_of_count h)
  have hsplit : exponent + Digits.count coefficient - 1 =
      (Digits.count coefficient - 1 : Nat) + exponent := by omega
  rw [hsplit, zpow_add₀ (by norm_num), zpow_natCast, value]
  push_cast at hcount ⊢
  exact mul_le_mul_of_nonneg_right hcount (by positivity)

theorem value_lt_of_count (coefficient : Nat) (exponent : Int) :
    value 10 coefficient exponent < (10 : ℚ) ^ (exponent + Digits.count coefficient) := by
  have hcount : (coefficient : ℚ) < (10 ^ Digits.count coefficient : Nat) :=
    Nat.cast_lt.mpr (Digits.lt_pow_count coefficient)
  rw [add_comm, zpow_add₀ (by norm_num), zpow_natCast, value]
  push_cast at hcount ⊢
  exact mul_lt_mul_of_pos_right hcount (by positivity)

/-- The number of digits that rounding to the working precision cuts off. -/
def excess (coefficient : Nat) (exponent : Int) : Nat :=
  max (Digits.count coefficient - precision) (leastExponent - exponent).toNat

/-- The digits that are left. -/
def kept (coefficient : Nat) (exponent : Int) : Nat :=
  if Digits.count coefficient < excess coefficient exponent then 0
  else roundHalfEven coefficient (10 ^ excess coefficient exponent)

theorem kept_mul_le (coefficient : Nat) (exponent : Int) :
    kept coefficient exponent * 10 ^ excess coefficient exponent ≤ 2 * coefficient := by
  have hpos : 0 < 10 ^ excess coefficient exponent := Nat.pow_pos (by decide)
  unfold kept
  generalize 10 ^ excess coefficient exponent = unit at hpos ⊢
  split
  · omega
  · have hnear := (roundHalfEven_near coefficient hpos).2
    cases hrounded : roundHalfEven coefficient unit with
    | zero => omega
    | succ rounded =>
      rw [hrounded] at hnear
      rw [Nat.mul_assoc] at hnear
      have hunit : unit ≤ (rounded + 1) * unit := Nat.le_mul_of_pos_left unit (by omega)
      omega

/-- Where no digits are left, they are all below the least exponent. -/
theorem exponent_le_of_kept_eq_zero {coefficient : Nat} {exponent : Int} (h : coefficient ≠ 0)
    (hkept : kept coefficient exponent = 0) :
    exponent + excess coefficient exponent ≤ leastExponent := by
  have hpos := Digits.count_pos coefficient
  have hcount : Digits.count coefficient ≤ excess coefficient exponent := by
    by_cases hlt : Digits.count coefficient < excess coefficient exponent
    · omega
    · -- Rounding down to zero cuts off more than the leading digit is worth.
      rw [kept, if_neg hlt] at hkept
      have hnear := (roundHalfEven_near coefficient
        (Nat.pow_pos (n := excess coefficient exponent) (a := 10) (by decide))).1
      rw [hkept] at hnear
      have hlow := Digits.le_of_count h
      have hpow : 10 ^ (Digits.count coefficient - 1) < 10 ^ excess coefficient exponent := by
        omega
      have := (Nat.pow_lt_pow_iff_right (by decide)).mp hpow
      omega
  unfold excess precision at *
  omega

theorem value_kept_le (coefficient : Nat) (exponent : Int) :
    value 10 (kept coefficient exponent) (exponent + excess coefficient exponent) ≤
      2 * value 10 coefficient exponent := by
  have hle : ((kept coefficient exponent * 10 ^ excess coefficient exponent : Nat) : ℚ) ≤
      (2 * coefficient : Nat) := Nat.cast_le.mpr (kept_mul_le coefficient exponent)
  push_cast at hle
  have hscaled := mul_le_mul_of_nonneg_right hle (show 0 ≤ (10 : ℚ) ^ exponent by positivity)
  calc value 10 (kept coefficient exponent) (exponent + excess coefficient exponent)
      = kept coefficient exponent * 10 ^ excess coefficient exponent * (10 : ℚ) ^ exponent := by
        rw [value, zpow_add₀ (by norm_num), zpow_natCast]
        push_cast
        ring
    _ ≤ 2 * coefficient * (10 : ℚ) ^ exponent := hscaled
    _ = 2 * value 10 coefficient exponent := by rw [value, mul_assoc]; rfl

/-- Rounding a number that is not zero: if as many digits are left as one more than the precision,
the last of them is cut off. -/
theorem rounded?_eq_ite {coefficient : Nat} (h : coefficient ≠ 0) (exponent : Int) :
    rounded? coefficient exponent =
      let (rounded, last) :=
        if kept coefficient exponent = 10 ^ precision then
          (10 ^ (precision - 1), exponent + excess coefficient exponent + 1)
        else (kept coefficient exponent, exponent + excess coefficient exponent)
      if greatestExponent < last + Digits.count rounded - 1 then none
      else some (rounded, last) := by
  unfold rounded?
  rw [if_neg h]
  rfl

/-- What a number is rounded to is at most twice as great. -/
theorem exists_rounded {coefficient : Nat} (h : coefficient ≠ 0) (exponent : Int) :
    ∃ rounded last, value 10 rounded last ≤ 2 * value 10 coefficient exponent ∧
      (rounded = 0 → last ≤ leastExponent) ∧
      rounded? coefficient exponent =
        if greatestExponent < last + Digits.count rounded - 1 then none
        else some (rounded, last) := by
  have hvalue := value_kept_le coefficient exponent
  rw [rounded?_eq_ite h]
  by_cases hfull : kept coefficient exponent = 10 ^ precision
  · rw [if_pos hfull]
    refine ⟨_, _, ?_, fun hzero => absurd hzero (by decide), rfl⟩
    have hsame : value 10 (10 ^ (precision - 1)) (exponent + excess coefficient exponent + 1) =
        value 10 (kept coefficient exponent) (exponent + excess coefficient exponent) := by
      rw [hfull, value, value, zpow_add_one₀ (by norm_num)]
      push_cast [precision]
      ring
    rw [hsame]
    exact hvalue
  · rw [if_neg hfull]
    exact ⟨_, _, hvalue, exponent_le_of_kept_eq_zero h, rfl⟩

/-- Rounding at most doubles a number. -/
theorem value_le_of_rounded? {coefficient rounded : Nat} {exponent last : Int}
    (h : rounded? coefficient exponent = some (rounded, last)) :
    value 10 rounded last ≤ 2 * value 10 coefficient exponent := by
  by_cases hzero : coefficient = 0
  · rw [rounded?, if_pos hzero] at h
    cases h
    simp [value, hzero]
  · obtain ⟨rounded', last', hle, -, heq⟩ := exists_rounded hzero exponent
    rw [heq] at h
    split at h
    · cases h
    · cases h
      exact hle

/-- A number past the range is huge. -/
theorem le_value_of_rounded?_eq_none {coefficient : Nat} {exponent : Int}
    (h : rounded? coefficient exponent = none) :
    (10 : ℚ) ^ (28 : Int) ≤ value 10 coefficient exponent := by
  by_cases hzero : coefficient = 0
  · rw [rounded?, if_pos hzero] at h
    cases h
  · obtain ⟨rounded, last, hle, hleast, heq⟩ := exists_rounded hzero exponent
    rw [heq] at h
    split at h
    · next hpast =>
      -- A number rounded to nothing lies at the other end of the range.
      have hrounded : rounded ≠ 0 := by
        rintro rfl
        have := hleast rfl
        rw [Digits.count_of_lt (by decide)] at hpast
        unfold greatestExponent leastExponent at *
        omega
      have hpow : (10 : ℚ) ^ (29 : Int) ≤ (10 : ℚ) ^ (last + Digits.count rounded - 1) := by
        refine zpow_le_zpow_right₀ (by norm_num) ?_
        unfold greatestExponent at hpast
        omega
      have hhuge := hpow.trans ((le_value_of_count hrounded last).trans hle)
      rw [show (29 : Int) = 28 + 1 from rfl, zpow_add_one₀ (by norm_num)] at hhuge
      have hpos : 0 < (10 : ℚ) ^ (28 : Int) := by positivity
      linarith
    · cases h

end Decimal

namespace Shortest

open Scaled (value fraction)

theorem Interval.le_of_contains {i : Interval} {num den : Nat} (h : i.contains num den) :
    i.low * den ≤ num * i.den ∧ num * i.den ≤ i.high * den := by
  unfold contains at h
  split at h
  · simp only [Bool.and_eq_true, decide_eq_true_eq] at h
    exact h
  · simp only [Bool.and_eq_true, decide_eq_true_eq] at h
    exact ⟨h.1.le, h.2.le⟩

/-- What is found on a grid lies between the bounds of the interval. -/
theorem value_mul_bounds_of_onGrid? {i : Interval} {exponent : Int} {n : Nat}
    (h : onGrid? i exponent = some n) :
    i.low ≤ value 10 n exponent * i.den ∧ value 10 n exponent * i.den ≤ i.high := by
  -- Whichever of the two neighbours is nearer, the one that is taken was tested.
  have hfits (fits : Nat → Bool) (nearer farther : Nat)
      (h : (if fits nearer then some nearer else if fits farther then some farther else none) =
        some n) : fits n := by
    split at h
    · next hfits =>
      cases h
      exact hfits
    · split at h
      · next hfits =>
        cases h
        exact hfits
      · cases h
  have hcontains : i.contains (fraction 10 n exponent).1 (fraction 10 n exponent).2 :=
    hfits (fun n => i.contains (fraction 10 n exponent).1 (fraction 10 n exponent).2) _ _ h
  have hpos : (0 : ℚ) < (fraction 10 n exponent).2 :=
    Nat.cast_pos.mpr (Scaled.fraction_snd_pos (by decide) n exponent)
  have hvalue : ((fraction 10 n exponent).1 * i.den : ℚ) =
      value 10 n exponent * i.den * (fraction 10 n exponent).2 := by
    rw [Scaled.fraction_fst (by decide)]
    ring
  obtain ⟨hlow, hhigh⟩ := Interval.le_of_contains hcontains
  rw [← Nat.cast_le (α := ℚ), Nat.cast_mul, Nat.cast_mul, hvalue] at hlow hhigh
  exact ⟨le_of_mul_le_mul_right hlow hpos, le_of_mul_le_mul_right hhigh hpos⟩

/-- The interval around a number with a fraction, in quarters of its unit. -/
theorem Interval.ofBinary_bounds (mantissa k : Nat) :
    (ofBinary mantissa (-(k : Int) - 1)).den = 8 * 2 ^ k ∧
      4 * mantissa ≤ (ofBinary mantissa (-(k : Int) - 1)).low + 2 ∧
      (ofBinary mantissa (-(k : Int) - 1)).high = 4 * mantissa + 2 := by
  have hfraction : fraction 2 1 (-(k : Int) - 1 - 2) = (1, 8 * 2 ^ k) := by
    rw [show -(k : Int) - 1 - 2 = -(k + 2 : Nat) - 1 by omega, Scaled.fraction_neg_succ,
      show k + 2 + 1 = 3 + k by omega, Nat.pow_add]
  simp only [ofBinary, hfraction]
  refine ⟨trivial, ?_, by omega⟩
  split <;> omega

/-- The shortest digits were found on a grid around the number. -/
theorem value_digits_cases (mantissa : Nat) (exponent : Int) :
    (∃ n last, onGrid? (.ofBinary mantissa exponent) last = some n ∧
      value 10 (digits mantissa exponent).1 (digits mantissa exponent).2 = value 10 n last) ∨
    digits mantissa exponent = (mantissa, exponent) := by
  have hfound {grids : List Int} {n : Nat} {last : Int}
      (h : grids.findSome? (fun e => (onGrid? (.ofBinary mantissa exponent) e).map (·, e)) =
        some (n, last)) : onGrid? (.ofBinary mantissa exponent) last = some n := by
    obtain ⟨e, -, he⟩ := List.exists_of_findSome?_eq_some h
    obtain ⟨n', hn, heq⟩ := Option.map_eq_some_iff.mp he
    cases heq
    exact hn
  unfold digits
  simp only
  split
  · next e hten =>
    refine .inl ⟨10, e, hfound hten, ?_⟩
    rw [value, value, zpow_add_one₀ (by norm_num)]
    push_cast
    ring
  · next found _ hsome => exact .inl ⟨found.1, found.2, hfound hsome, rfl⟩
  · exact .inr rfl

/-- The shortest digits of a number with a fraction are at most its mantissa. -/
theorem value_digits_le {mantissa : Nat} {exponent : Int} (hmantissa : mantissa ≠ 0)
    (hexponent : exponent < 0) :
    value 10 (digits mantissa exponent).1 (digits mantissa exponent).2 ≤ mantissa := by
  obtain ⟨k, rfl⟩ : ∃ k : Nat, exponent = -(k : Int) - 1 := ⟨(-exponent - 1).toNat, by omega⟩
  rcases value_digits_cases mantissa (-(k : Int) - 1) with ⟨n, last, hgrid, hvalue⟩ | hown
  · obtain ⟨hden, -, hhigh⟩ := Interval.ofBinary_bounds mantissa k
    have hle := (value_mul_bounds_of_onGrid? hgrid).2
    rw [hden, hhigh] at hle
    rw [hvalue]
    have hpos : (0 : ℚ) < (8 * 2 ^ k : Nat) := Nat.cast_pos.mpr (by positivity)
    refine le_of_mul_le_mul_right (hle.trans ?_) hpos
    have hpow := Nat.pow_pos (n := k) (show 0 < 2 by decide)
    have hnat : 4 * mantissa + 2 ≤ mantissa * (8 * 2 ^ k) := by
      have := Nat.mul_le_mul_left mantissa (show 8 ≤ 8 * 2 ^ k by omega)
      omega
    exact_mod_cast hnat
  · rw [hown]
    have hpow : (10 : ℚ) ^ (-(k : Int) - 1) ≤ 1 :=
      zpow_le_one_of_nonpos₀ (by norm_num) hexponent.le
    have hle := mul_le_mul_of_nonneg_left hpow (Nat.cast_nonneg (α := ℚ) mantissa)
    rwa [mul_one] at hle

/-- The shortest digits of a number with a fraction are not one. -/
theorem value_digits_ne_one {mantissa : Nat} {exponent : Int}
    (h : ¬Scaled.isWhole 2 mantissa exponent) :
    value 10 (digits mantissa exponent).1 (digits mantissa exponent).2 ≠ 1 := by
  obtain ⟨hmantissa, hexponent⟩ := Scaled.of_not_isWhole h
  obtain ⟨k, rfl⟩ : ∃ k : Nat, exponent = -(k : Int) - 1 := ⟨(-exponent - 1).toNat, by omega⟩
  rw [Scaled.isWhole_iff, Scaled.fraction_neg_succ] at h
  intro hone
  rcases value_digits_cases mantissa (-(k : Int) - 1) with ⟨n, last, hgrid, hvalue⟩ | hown
  · -- one is a power of two in units of the mantissa, so that it is the number itself
    obtain ⟨hden, hlow, hhigh⟩ := Interval.ofBinary_bounds mantissa k
    have hbounds := value_mul_bounds_of_onGrid? hgrid
    rw [← hvalue, hone, one_mul, hhigh, hden, Nat.cast_le, Nat.cast_le] at hbounds
    have hsame : mantissa = 2 ^ (k + 1) := by
      rw [Nat.pow_succ]
      omega
    exact h (by rw [hsame, Nat.mod_self])
  · -- a mantissa that is a power of ten is divided by the power of two
    rw [hown, value, show -(k : Int) - 1 = -(k + 1 : Nat) by omega, zpow_neg, zpow_natCast,
      mul_inv_eq_one₀ (by positivity)] at hone
    have hpow : mantissa = 10 ^ (k + 1) := by exact_mod_cast hone
    refine h (Nat.mod_eq_zero_of_dvd ?_)
    rw [hpow]
    exact pow_dvd_pow_of_dvd (by decide) (k + 1)

end Shortest

end Phrasebook
