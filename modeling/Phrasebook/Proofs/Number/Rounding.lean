import Mathlib.Algebra.Order.Field.Basic
import Phrasebook.Proofs.Number.Truncation

/-! Numbers rounded to a grid.  The multiple of a unit that is nearest to a number is found by one
division, and if the unit suits the size of the number, nothing with as many digits is nearer, on
this grid or on another. -/

namespace Phrasebook

/-! ### Quotients -/

section Quotients

variable {den : Nat}

/-- If a quotient is half-way between two natural numbers, it is rounded to the even one. -/
theorem roundHalfEven_even (num : Nat) (hden : 0 < den)
    (h : 2 * num = (2 * roundHalfEven num den + 1) * den ∨
      2 * roundHalfEven num den * den = 2 * num + den) :
    roundHalfEven num den % 2 = 0 := by
  refine roundHalfEven_even_of_tie ?_
  have hm := Nat.div_add_mod num den
  have hlt := Nat.mod_lt num hden
  rw [Nat.mul_comm] at hm
  simp only [roundHalfEven] at h
  repeat' split at h
  all_goals
    simp only [Nat.add_mul, Nat.mul_add, Nat.mul_assoc, Nat.one_mul] at h
    omega

end Quotients

/-! ### Multiples of a unit -/

/-- The multiple `n * unit` is nearest to `x`; of two equally near, it is the even one. -/
structure Rounds (unit x : ℚ) (n : Nat) : Prop where
  near : |n * unit - x| ≤ unit / 2
  even : |n * unit - x| = unit / 2 → Even n

namespace Rounds

variable {unit x : ℚ} {n : Nat}

theorem of_eq (hunit : 0 < unit) (h : x = n * unit) : Rounds unit x n := by
  have hzero : |n * unit - x| = 0 := by rw [h, sub_self, abs_zero]
  refine ⟨by rw [hzero]; positivity, fun htie => ?_⟩
  rw [hzero] at htie
  linarith

/-- A quotient of natural numbers, in units. -/
theorem of_quotient {num den : Nat} (hden : 0 < den) (hunit : 0 < unit)
    (hx : x * den = num * unit) : Rounds unit x (roundHalfEven num den) := by
  obtain ⟨hlow, hhigh⟩ := roundHalfEven_near num hden
  have heven := roundHalfEven_even num hden
  generalize roundHalfEven num den = n at hlow hhigh heven
  -- everything is a multiple of the unit's share `unit / den`
  have hden' : (0 : ℚ) < den := Nat.cast_pos.mpr hden
  have hshare : 0 < unit / den := div_pos hunit hden'
  have hunit' : unit = den * (unit / den) := by field_simp
  have hdistance : n * unit - x = (n * den - num) * (unit / den) := by
    field_simp
    linarith
  have habs : |n * unit - x| = |(n : ℚ) * den - num| * (unit / den) := by
    rw [hdistance, abs_mul, abs_of_pos hshare]
  have hhalf : unit / 2 = (den : ℚ) / 2 * (unit / den) := by
    rw [hunit']
    field_simp
  have hlow' : (2 : ℚ) * num ≤ (2 * n + 1) * den := by exact_mod_cast hlow
  have hhigh' : (2 : ℚ) * n * den ≤ 2 * num + den := by exact_mod_cast hhigh
  refine ⟨?_, fun htie => ?_⟩
  · rw [habs, hhalf]
    refine mul_le_mul_of_nonneg_right (abs_le.mpr ⟨?_, ?_⟩) hshare.le
    · linarith
    · linarith
  · rw [habs, hhalf] at htie
    have htie' := mul_right_cancel₀ hshare.ne' htie
    refine Nat.even_iff.mpr (heven ?_)
    rcases abs_choice ((n : ℚ) * den - num) with hsign | hsign
    · right
      have heq : (2 : ℚ) * n * den = 2 * num + den := by linarith
      exact_mod_cast heq
    · left
      have heq : (2 : ℚ) * num = (2 * n + 1) * den := by linarith
      exact_mod_cast heq

theorem unit_nonneg (h : Rounds unit x n) : 0 ≤ unit := by
  have := (abs_nonneg _).trans h.near
  linarith

theorem unit_le_abs_sub (h : Rounds unit x n) {m : Nat} (hm : m ≠ n) :
    unit ≤ |m * unit - x| + |n * unit - x| := by
  have hne : (m : ℤ) - n ≠ 0 := sub_ne_zero.mpr (Nat.cast_injective.ne hm)
  have hone : (1 : ℚ) ≤ |(m : ℚ) - n| := by exact_mod_cast Int.one_le_abs hne
  calc unit ≤ |(m : ℚ) - n| * unit := le_mul_of_one_le_left h.unit_nonneg hone
    _ = |(m * unit - x) - (n * unit - x)| := by
      rw [← abs_of_nonneg h.unit_nonneg, ← abs_mul, abs_of_nonneg h.unit_nonneg]
      ring_nf
    _ ≤ |m * unit - x| + |n * unit - x| := abs_sub _ _

/-- No multiple of the unit is nearer. -/
theorem le_abs_sub (h : Rounds unit x n) (m : Nat) : |n * unit - x| ≤ |m * unit - x| := by
  by_cases hm : m = n
  · rw [hm]
  · have hunit := h.unit_le_abs_sub hm
    have hnear := h.near
    linarith

/-- Where another multiple is as near, the number is half-way between the two. -/
theorem even_of_tie (h : Rounds unit x n) {m : Nat} (hm : m ≠ n)
    (htie : |n * unit - x| = |m * unit - x|) : Even n := by
  have hunit := h.unit_le_abs_sub hm
  have hnear := h.near
  exact h.even (by linarith)

/-- An even multiple at half a unit or less is the one. -/
theorem eq_of_even (h : Rounds unit x n) (hunit : 0 < unit) {m : Nat} (hm : Even m)
    (hle : |m * unit - x| ≤ unit / 2) : n = m := by
  by_contra hne
  have hsum := h.unit_le_abs_sub (Ne.symm hne)
  have hnear := h.near
  have heven := h.even (by linarith)
  -- two even multiples are further apart than one unit
  obtain ⟨a, rfl⟩ := heven
  obtain ⟨b, rfl⟩ := hm
  have hdistinct : (a : ℤ) - b ≠ 0 := sub_ne_zero.mpr (Nat.cast_injective.ne (by omega))
  have hone : (1 : ℚ) ≤ |(a : ℚ) - b| := by exact_mod_cast Int.one_le_abs hdistinct
  have hapart := abs_sub (((a + a : Nat) : ℚ) * unit - x) (((b + b : Nat) : ℚ) * unit - x)
  have htwo : ((a + a : Nat) : ℚ) * unit - x - (((b + b : Nat) : ℚ) * unit - x) =
      2 * (a - b) * unit := by
    push_cast
    ring
  rw [htwo, abs_mul, abs_mul, abs_two, abs_of_pos hunit] at hapart
  have hmul := mul_le_mul_of_nonneg_right hone hunit.le
  linarith

theorem le_of_le_mul (h : Rounds unit x n) (hunit : 0 < unit) {m : Nat} (hm : x ≤ m * unit) :
    n ≤ m := by
  have hle := h.le_abs_sub m
  rw [abs_of_nonneg (by linarith : 0 ≤ m * unit - x)] at hle
  have hmul : n * unit ≤ m * unit := by linarith [le_abs_self (n * unit - x)]
  exact Nat.cast_le.mp (le_of_mul_le_mul_right hmul hunit)

theorem le_of_mul_le (h : Rounds unit x n) (hunit : 0 < unit) {m : Nat} (hm : m * unit ≤ x) :
    m ≤ n := by
  have hle := h.le_abs_sub m
  rw [abs_of_nonpos (by linarith : m * unit - x ≤ 0)] at hle
  have hmul : m * unit ≤ n * unit := by linarith [neg_abs_le (n * unit - x)]
  exact Nat.cast_le.mp (le_of_mul_le_mul_right hmul hunit)

/-- What lies below a multiple that is not above the number is farther off. -/
theorem lt_abs_sub (h : Rounds unit x n) {m : Nat} (hm : m * unit ≤ x) {y : ℚ}
    (hy : y < m * unit) : |n * unit - x| < |y - x| := by
  have hle := h.le_abs_sub m
  rw [abs_of_nonpos (by linarith : m * unit - x ≤ 0)] at hle
  rw [abs_of_neg (by linarith : y - x < 0)]
  linarith

end Rounds

/-! ### Numbers with so many digits -/

namespace Scaled

variable {base : Nat}

theorem pow_mul_zpow (hbase : base ≠ 0) (k : Nat) (e : Int) :
    ((base ^ k : Nat) : ℚ) * (base : ℚ) ^ e = (base : ℚ) ^ ((k : Int) + e) := by
  rw [zpow_add₀ (Nat.cast_ne_zero.mpr hbase), zpow_natCast, Nat.cast_pow]

/-- A number is a multiple of each smaller power. -/
theorem exists_value_eq_mul (hbase : 0 < base) (n : Nat) {unit exponent : Int}
    (h : unit ≤ exponent) : ∃ m : Nat, value base n exponent = m * (base : ℚ) ^ unit := by
  obtain ⟨k, hk⟩ := Int.le.dest h
  have hne : (base : ℚ) ≠ 0 := Nat.cast_ne_zero.mpr hbase.ne'
  refine ⟨n * base ^ k, ?_⟩
  rw [value, ← hk, zpow_add₀ hne, zpow_natCast]
  push_cast
  ring

/-- What has one digit more but a smaller exponent is smaller. -/
theorem value_lt (hbase : 1 < base) {n digits : Nat} (hn : n < base ^ (digits + 1))
    {unit exponent : Int} (h : exponent < unit) :
    value base n exponent < (base ^ digits : Nat) * (base : ℚ) ^ unit := by
  have hpos : (0 : ℚ) < base := Nat.cast_pos.mpr (by omega)
  have hone : (1 : ℚ) ≤ base := Nat.one_le_cast.mpr (by omega)
  have hn' : (n : ℚ) < (base ^ (digits + 1) : Nat) := Nat.cast_lt.mpr hn
  calc value base n exponent
      < (base ^ (digits + 1) : Nat) * (base : ℚ) ^ exponent :=
        mul_lt_mul_of_pos_right hn' (zpow_pos hpos exponent)
    _ = (base ^ digits : Nat) * (base : ℚ) ^ (exponent + 1) := by
        rw [zpow_add_one₀ hpos.ne']
        push_cast
        ring
    _ ≤ (base ^ digits : Nat) * (base : ℚ) ^ unit :=
        mul_le_mul_of_nonneg_left (zpow_le_zpow_right₀ hone (by omega)) (Nat.cast_nonneg _)

end Scaled

namespace Rounds

open Scaled (value)

variable {base digits n : Nat} {unit : Int} {x : ℚ}

/-- Rounded to a grid on which it has one digit more than `digits`, a number is nearer to nothing
with as many digits, whatever the exponent. -/
theorem le_abs_value_sub (hbase : 1 < base) (h : Rounds ((base : ℚ) ^ unit) x n) {m : Nat}
    {exponent : Int} (hm : m < base ^ (digits + 1))
    (hlow : exponent < unit → (base ^ digits : Nat) * (base : ℚ) ^ unit ≤ x) :
    |n * (base : ℚ) ^ unit - x| ≤ |value base m exponent - x| := by
  rcases lt_or_ge exponent unit with hlt | hle
  · exact (h.lt_abs_sub (hlow hlt) (Scaled.value_lt hbase hm hlt)).le
  · obtain ⟨k, hk⟩ := Scaled.exists_value_eq_mul (show 0 < base by omega) m hle
    rw [hk]
    exact h.le_abs_sub k

theorem even_of_value_tie (hbase : 1 < base) (h : Rounds ((base : ℚ) ^ unit) x n) {m : Nat}
    {exponent : Int} (hm : m < base ^ (digits + 1))
    (hlow : exponent < unit → (base ^ digits : Nat) * (base : ℚ) ^ unit ≤ x)
    (hne : value base m exponent ≠ n * (base : ℚ) ^ unit)
    (htie : |n * (base : ℚ) ^ unit - x| = |value base m exponent - x|) : Even n := by
  rcases lt_or_ge exponent unit with hlt | hle
  · exact absurd htie (h.lt_abs_sub (hlow hlt) (Scaled.value_lt hbase hm hlt)).ne
  · obtain ⟨k, hk⟩ := Scaled.exists_value_eq_mul (show 0 < base by omega) m hle
    rw [hk] at hne htie
    exact h.even_of_tie (fun hkn => hne (by rw [hkn])) htie

/-- A number without the last of its digits. -/
theorem of_cut (hbase : 0 < base) (m k : Nat) (exponent : Int) :
    Rounds ((base : ℚ) ^ (exponent + k)) (value base m exponent) (roundHalfEven m (base ^ k)) := by
  have hpos : (0 : ℚ) < base := Nat.cast_pos.mpr hbase
  refine of_quotient (Nat.pow_pos hbase) (by positivity) ?_
  rw [zpow_add₀ hpos.ne', zpow_natCast, value]
  push_cast
  ring

end Rounds

end Phrasebook
