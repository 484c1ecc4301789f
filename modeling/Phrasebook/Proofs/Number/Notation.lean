import Phrasebook.Number.Notation
import Phrasebook.Proofs.Number.Precision

/-! How binary numbers are rounded to be written.  A binary number is a decimal of finitely many
digits; what a notation has no room for is cut off that decimal, to the nearest and in a tie to the
even digit, and a carry makes a new leading digit. -/

namespace Phrasebook

open Scaled (value)

namespace Digits

/-- Zeros behind digits multiply the number. -/
theorem toNat_append_zeros (base : Nat) (digits : List Nat) (zeros : Nat) :
    toNat base (digits ++ List.replicate zeros 0) = toNat base digits * base ^ zeros := by
  induction zeros with
  | zero => rw [List.replicate_zero, List.append_nil, Nat.pow_zero, Nat.mul_one]
  | succ zeros ih =>
    rw [List.replicate_succ', ← List.append_assoc, toNat_concat, ih, Nat.pow_succ, Nat.mul_assoc,
      Nat.add_zero]

theorem count_le_iff {n k : Nat} : count n ≤ k + 1 ↔ n < 10 ^ (k + 1) := by
  constructor
  · exact fun h => (lt_pow_count n).trans_le (Nat.pow_le_pow_right (by decide) h)
  · intro h
    by_cases hn : n = 0
    · rw [hn, count_of_lt (by decide)]
      omega
    · have hlt := (Nat.pow_lt_pow_iff_right (by decide)).mp ((le_of_count hn).trans_lt h)
      omega

/-- The digits of a power of ten without the last. -/
theorem dropLast_ofNat_pow (k : Nat) : (ofNat 10 (10 ^ (k + 1))).dropLast = ofNat 10 (10 ^ k) := by
  have hpos := Nat.pow_pos (n := k) (show 0 < 10 by decide)
  have hten : ¬(10 ^ (k + 1) < 10 ∨ 10 < 2) := by
    rw [Nat.pow_succ]
    omega
  rw [ofNat_eq, if_neg hten, List.dropLast_concat, Nat.pow_succ, Nat.mul_div_cancel _ (by decide)]

end Digits

/-- A magnitude of `places + 1` significant digits with the leading exponent `leading`, to which `x`
is rounded; where the rounding carries into a new digit, the last digit, a zero, is cut off. -/
inductive RoundsToDigits (places : Nat) (x : ℚ) : Nat → Int → Prop
  | zero : x = 0 → RoundsToDigits places x 0 0
  | fits {n : Nat} {leading : Int} : (10 : ℚ) ^ leading ≤ x → x < (10 : ℚ) ^ (leading + 1) →
      Rounds ((10 : ℚ) ^ (leading - places)) x n → n < 10 ^ (places + 1) →
      RoundsToDigits places x n leading
  | carries {leading : Int} : (10 : ℚ) ^ leading ≤ x → x < (10 : ℚ) ^ (leading + 1) →
      Rounds ((10 : ℚ) ^ (leading - places)) x (10 ^ (places + 1)) →
      RoundsToDigits places x (10 ^ places) (leading + 1)

namespace RoundsToDigits

variable {places n : Nat} {x : ℚ} {leading : Int}

theorem lt (h : RoundsToDigits places x n leading) : n < 10 ^ (places + 1) := by
  cases h with
  | zero => exact Nat.pow_pos (by decide)
  | fits _ _ _ hn => exact hn
  | carries => exact Nat.pow_lt_pow_right (by decide) (Nat.lt_succ_self places)

theorem le_grid {leading : Int} (hlow : (10 : ℚ) ^ leading ≤ x) :
    (10 ^ places : Nat) * (10 : ℚ) ^ (leading - places) ≤ x := by
  rwa [Decimal.ten_pow_mul_zpow, add_sub_cancel]

/-- The leading digit is zero for zero only. -/
theorem le (h : RoundsToDigits places x n leading) (hx : x ≠ 0) : 10 ^ places ≤ n := by
  cases h with
  | zero hzero => exact absurd hzero hx
  | fits hlow _ hrounds _ => exact hrounds.le_of_mul_le (by positivity) (le_grid hlow)
  | carries => exact le_rfl

theorem eq_zero (h : RoundsToDigits places x n leading) (hx : x = 0) : n = 0 ∧ leading = 0 := by
  have hpow (k : Int) : ¬(10 : ℚ) ^ k ≤ x := by
    rw [hx, not_le]
    positivity
  cases h with
  | zero => exact ⟨rfl, rfl⟩
  | fits hlow => exact absurd hlow (hpow _)
  | carries hlow => exact absurd hlow (hpow _)

/-- No number with as many digits is nearer, whatever its exponent. -/
theorem nearest (h : RoundsToDigits places x n leading) {m : Nat} (hm : m < 10 ^ (places + 1))
    (exponent : Int) :
    |value 10 n (leading - places) - x| ≤ |value 10 m exponent - x| := by
  cases h with
  | zero hzero =>
    rw [hzero, value, Nat.cast_zero, zero_mul, sub_zero, abs_zero]
    exact abs_nonneg _
  | fits hlow _ hrounds _ =>
    exact hrounds.le_abs_value_sub (show 1 < 10 by decide) hm fun _ => le_grid hlow
  | @carries leading hlow _ hrounds =>
    have hcarry : value 10 (10 ^ places) (leading + 1 - places) =
        (10 ^ (places + 1) : Nat) * (10 : ℚ) ^ (leading - places) := by
      show ((10 ^ places : Nat) : ℚ) * (10 : ℚ) ^ (leading + 1 - places) = _
      rw [Decimal.ten_pow_mul_zpow, Decimal.ten_pow_mul_zpow]
      congr 1
      omega
    rw [hcarry]
    exact hrounds.le_abs_value_sub (show 1 < 10 by decide) hm fun _ => le_grid hlow

end RoundsToDigits

namespace Notation

variable (mantissa : Nat) (exponent : Int)

/-- The expansion is exact. -/
theorem value_expansion : value 10 (expansion mantissa exponent).1 (-(expansion mantissa exponent).2) =
    value 2 mantissa exponent := by
  unfold expansion value
  split
  · next hexponent =>
    obtain ⟨k, rfl⟩ := Int.eq_ofNat_of_zero_le hexponent
    simp
  · next hexponent =>
    obtain ⟨k, rfl⟩ : ∃ k : Nat, exponent = -(k : Int) := ⟨(-exponent).toNat, by omega⟩
    have hten : (10 : ℚ) ^ k = 5 ^ k * 2 ^ k := by rw [← mul_pow]; norm_num
    rw [neg_neg, Int.toNat_natCast, Nat.cast_ofNat, zpow_neg, zpow_neg, zpow_natCast,
      zpow_natCast, hten, Nat.pow_eq]
    push_cast
    field_simp

/-- The last digit of so many places is the nearest, of two equally near the even one. -/
theorem rounds_toPlaces (places : Nat) : Rounds ((10 : ℚ) ^ (-(places : Int)))
    (value 2 mantissa exponent) (toPlaces mantissa exponent places) := by
  rw [← value_expansion]
  unfold toPlaces
  generalize expansion mantissa exponent = digits
  obtain ⟨digits, behind⟩ := digits
  simp only
  split
  · next hle =>
    obtain ⟨k, rfl⟩ := Nat.exists_eq_add_of_le hle
    refine .of_eq (by positivity) ?_
    rw [value, Nat.add_sub_cancel_left, Nat.pow_eq, Nat.cast_mul, mul_assoc,
      Decimal.ten_pow_mul_zpow]
    congr 2
    push_cast
    omega
  · next hlt =>
    obtain ⟨k, rfl⟩ := Nat.exists_eq_add_of_le (not_le.mp hlt).le
    have hrounds := Rounds.of_cut (show 0 < 10 by decide) digits k (-(places + k : Nat))
    rw [Nat.add_sub_cancel_left]
    rwa [Nat.cast_ofNat, show -((places + k : Nat) : Int) + k = -(places : Int) by omega] at hrounds

theorem padded_ofNat {n count : Nat} (h : Digits.count n ≤ count) :
    (padded (Digits.ofNat 10 n) count).length = count ∧
      (∀ d ∈ padded (Digits.ofNat 10 n) count, d < 10) ∧
      Digits.toNat 10 (padded (Digits.ofNat 10 n) count) = n * 10 ^ (count - Digits.count n) := by
  unfold padded
  refine ⟨?_, List.forall_mem_append.mpr ⟨fun d hd => ?_, fun d hd => ?_⟩, ?_⟩
  · rw [List.length_append, List.length_replicate]
    exact Nat.add_sub_cancel' h
  · exact Digits.lt_of_mem_ofNat (by decide) hd
  · rw [List.eq_of_mem_replicate hd]
    decide
  · rw [Digits.toNat_append_zeros, Digits.toNat_ofNat]
    rfl

/-- The significant digits that are written are those of the magnitude rounded to so many. -/
theorem significant_spec (places : Nat) :
    ∃ kept leading, significant mantissa exponent (places + 1) =
        (Digits.ofNat 10 kept, leading) ∧
      Digits.count kept ≤ places + 1 ∧
      RoundsToDigits places (value 2 mantissa exponent)
        (kept * 10 ^ (places + 1 - Digits.count kept)) leading := by
  rw [← value_expansion]
  unfold significant
  generalize expansion mantissa exponent = expansion
  obtain ⟨n, behind⟩ := expansion
  simp only
  split
  · next hzero =>
    have hdigits : Digits.ofNat 10 0 = [0] := by rw [Digits.ofNat_eq, if_pos (by decide)]
    refine ⟨0, 0, by rw [hdigits], ?_, ?_⟩
    · rw [Digits.count_of_lt (by decide)]
      omega
    · rw [Nat.zero_mul]
      exact .zero (by rw [hzero, value, Nat.cast_zero, zero_mul])
  next hne =>
  have hlow := Decimal.le_value_of_count hne (-behind)
  have hhigh := Decimal.value_lt_of_count n (-behind)
  have hleading : ((Digits.ofNat 10 n).length : Int) - 1 - behind =
      -behind + Digits.count n - 1 := by
    unfold Digits.count
    omega
  rw [hleading]
  generalize hfirst : -(behind : Int) + Digits.count n - 1 = leading at hlow ⊢
  rw [show -(behind : Int) + Digits.count n = leading + 1 by omega] at hhigh
  split
  · next hshort =>
    obtain ⟨zeros, hzeros⟩ := Nat.exists_eq_add_of_le (show Digits.count n ≤ places + 1 from hshort)
    refine ⟨n, leading, rfl, hshort, ?_⟩
    rw [hzeros, Nat.add_sub_cancel_left]
    refine .fits hlow hhigh (.of_eq (by positivity) ?_) ?_
    · rw [Nat.cast_mul, mul_assoc, Decimal.ten_pow_mul_zpow, value]
      congr 2
      omega
    · rw [hzeros, Nat.pow_add]
      exact Nat.mul_lt_mul_of_pos_right (Digits.lt_pow_count n) (Nat.pow_pos (by decide))
  · next hlong =>
    obtain ⟨cut, hcut⟩ := Nat.exists_eq_add_of_le (not_le.mp hlong).le
    have hrounds := Rounds.of_cut (show 0 < 10 by decide) n cut (-behind)
    rw [hcut, Nat.add_sub_cancel_left]
    rw [Nat.cast_ofNat, show -(behind : Int) + cut = leading - places by
      rw [← Digits.count] at hcut
      omega] at hrounds
    generalize roundHalfEven n (10 ^ cut) = kept at hrounds
    have hle := hrounds.le_of_mul_le (by positivity) (RoundsToDigits.le_grid hlow)
    have hge := hrounds.le_of_le_mul (m := 10 ^ (places + 1)) (by positivity) (by
      rw [Decimal.ten_pow_mul_zpow, show ((places + 1 : Nat) : Int) + (leading - places) =
        leading + 1 by omega]
      exact hhigh.le)
    split
    · next hfits =>
      have hlt := Digits.count_le_iff.mp hfits
      refine ⟨kept, leading, rfl, hfits, .fits hlow hhigh ?_ ?_⟩ <;>
        rw [Digits.count_eq hle hlt, Nat.sub_self, Nat.pow_zero, Nat.mul_one]
      · exact hrounds
      · exact hlt
    · next hcarries =>
      have hkept : kept = 10 ^ (places + 1) :=
        le_antisymm hge (not_lt.mp fun h => hcarries (Digits.count_le_iff.mpr h))
      rw [hkept] at hrounds ⊢
      refine ⟨10 ^ places, leading + 1, by rw [Digits.dropLast_ofNat_pow],
        (Digits.count_pow places).le, ?_⟩
      rw [Digits.count_pow, Nat.sub_self, Nat.pow_zero, Nat.mul_one]
      exact .carries hlow hhigh hrounds

end Notation

end Phrasebook
