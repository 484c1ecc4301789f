import Phrasebook.Proofs.Number.Rounding

/-! Decimals at the working precision.  What has no more digits stays as it is; what has more is
rounded to that many, up to the next power of ten.  So a magnitude is taken for one not only if it
is one, and it is past the range from half a unit below the next power of ten on. -/

namespace Phrasebook

open Scaled (value)

namespace Digits

theorem count_eq {n k : Nat} (hlow : 10 ^ k ≤ n) (hhigh : n < 10 ^ (k + 1)) : count n = k + 1 := by
  have hne : n ≠ 0 := by
    have := Nat.pow_pos (n := k) (show 0 < 10 by decide)
    omega
  have hpos := count_pos n
  have hle : k < count n := (Nat.pow_lt_pow_iff_right (by decide)).mp
    (hlow.trans_lt (lt_pow_count n))
  have hlt : count n - 1 < k + 1 := (Nat.pow_lt_pow_iff_right (by decide)).mp
    ((le_of_count hne).trans_lt hhigh)
  omega

theorem count_pow (k : Nat) : count (10 ^ k) = k + 1 :=
  count_eq le_rfl (Nat.pow_lt_pow_right (by decide) (Nat.lt_succ_self k))

end Digits

namespace Decimal

variable {coefficient : Nat} {exponent : Int}

theorem isUnit_iff : isUnit coefficient exponent ↔ value 10 coefficient exponent = 1 := by
  simp only [isUnit, Bool.and_eq_true, decide_eq_true_eq, beq_iff_eq, Nat.pow_eq]
  constructor
  · rintro ⟨⟨hexponent, -⟩, hcoefficient⟩
    obtain ⟨k, rfl⟩ : ∃ k : Nat, exponent = -(k : Int) := ⟨(-exponent).toNat, by omega⟩
    rw [hcoefficient, neg_neg, Int.toNat_natCast, value, zpow_neg, zpow_natCast]
    push_cast
    exact mul_inv_cancel₀ (by positivity)
  · intro hone
    rcases le_or_gt exponent 0 with hle | hpos
    · obtain ⟨k, rfl⟩ : ∃ k : Nat, exponent = -(k : Int) := ⟨(-exponent).toNat, by omega⟩
      have hcoefficient : coefficient = 10 ^ k := by
        rw [value, zpow_neg, zpow_natCast] at hone
        have hcast : (coefficient : ℚ) = (10 ^ k : Nat) := by
          push_cast at hone ⊢
          exact (mul_inv_eq_one₀ (by positivity)).mp hone
        exact Nat.cast_injective hcast
      rw [hcoefficient, neg_neg, Int.toNat_natCast]
      exact ⟨⟨hle, Digits.count_pow k⟩, rfl⟩
    · obtain ⟨m, hm⟩ := Scaled.exists_value_eq_mul (show 0 < 10 by decide) coefficient
        (show (1 : Int) ≤ exponent by omega)
      rw [hone, zpow_one] at hm
      have hnat : 1 = m * 10 := by exact_mod_cast hm
      omega

/-! ### Rounding -/

/-- What is not below the least exponent loses the digits behind the working precision. -/
theorem excess_eq (h : leastExponent ≤ exponent + (Digits.count coefficient - precision : Nat)) :
    excess coefficient exponent = Digits.count coefficient - precision := by
  unfold excess
  omega

theorem rounded?_of_short (hne : coefficient ≠ 0) (hcount : Digits.count coefficient ≤ precision)
    (hleast : leastExponent ≤ exponent) : rounded? coefficient exponent =
      if greatestExponent < exponent + Digits.count coefficient - 1 then none
      else some (coefficient, exponent) := by
  have hexcess : excess coefficient exponent = 0 := by
    rw [excess_eq (by omega)]
    omega
  have hkept : kept coefficient exponent = coefficient := by
    rw [kept, hexcess, if_neg (Nat.not_lt_zero _), pow_zero]
    unfold roundHalfEven
    simp [Nat.mod_one]
  have hlt : coefficient < 10 ^ precision :=
    (Digits.lt_pow_count coefficient).trans_le (Nat.pow_le_pow_right (by decide) hcount)
  rw [rounded?_eq_ite hne, hkept, hexcess, if_neg hlt.ne, Nat.cast_zero, add_zero]

/-- Where the digits end that rounding leaves. -/
def lastKept (coefficient : Nat) (exponent : Int) : Int :=
  exponent + Digits.count coefficient - precision

theorem ten_pow_mul_zpow (k : Nat) (e : Int) :
    ((10 ^ k : Nat) : ℚ) * (10 : ℚ) ^ e = (10 : ℚ) ^ ((k : Int) + e) :=
  Scaled.pow_mul_zpow (by decide) k e

/-- On the grid that ends there, a number has as many digits as the working precision. -/
theorem value_bounds (hne : coefficient ≠ 0) (exponent : Int) :
    (10 ^ (precision - 1) : Nat) * (10 : ℚ) ^ lastKept coefficient exponent ≤
        value 10 coefficient exponent ∧
      value 10 coefficient exponent <
        (10 ^ precision : Nat) * (10 : ℚ) ^ lastKept coefficient exponent := by
  have hlow := le_value_of_count hne exponent
  have hhigh := value_lt_of_count coefficient exponent
  rw [ten_pow_mul_zpow, ten_pow_mul_zpow]
  have hfirst : ((precision - 1 : Nat) : Int) + lastKept coefficient exponent =
      exponent + Digits.count coefficient - 1 := by
    unfold lastKept precision
    omega
  have hnext : (precision : Int) + lastKept coefficient exponent =
      exponent + Digits.count coefficient := by
    unfold lastKept
    omega
  rw [hfirst, hnext]
  exact ⟨hlow, hhigh⟩

/-- A number on a grid with as many digits as the working precision; the next power of ten has one
digit too many, which is a zero. -/
def carried (n : Nat) (last : Int) : Nat × Int :=
  if n = 10 ^ precision then (10 ^ (precision - 1), last + 1) else (n, last)

theorem value_carried (n : Nat) (last : Int) :
    value 10 (carried n last).1 (carried n last).2 = n * (10 : ℚ) ^ last := by
  rw [carried]
  split
  · next hfull =>
    rw [hfull, ten_pow_mul_zpow]
    show ((10 ^ (precision - 1) : Nat) : ℚ) * (10 : ℚ) ^ (last + 1) = _
    rw [ten_pow_mul_zpow]
    congr 1
    simp only [precision]
    omega
  · rfl

/-- What has more digits than the working precision is rounded to a grid on which it has as many. -/
theorem exists_rounds (hcount : precision < Digits.count coefficient) (exponent : Int)
    (hleast : leastExponent ≤ lastKept coefficient exponent) :
    ∃ n, Rounds ((10 : ℚ) ^ lastKept coefficient exponent) (value 10 coefficient exponent) n ∧
      10 ^ (precision - 1) ≤ n ∧ n ≤ 10 ^ precision ∧
      rounded? coefficient exponent =
        let (rounded, last) := carried n (lastKept coefficient exponent)
        if greatestExponent < last + precision - 1 then none else some (rounded, last) := by
  have hne : coefficient ≠ 0 := by
    rintro rfl
    rw [Digits.count_of_lt (by decide)] at hcount
    exact absurd hcount (by decide)
  obtain ⟨k, hk⟩ := Nat.exists_eq_add_of_lt hcount
  have hlast : lastKept coefficient exponent = exponent + (k + 1 : Nat) := by
    unfold lastKept
    omega
  have hexcess : excess coefficient exponent = k + 1 := by
    rw [excess_eq (by omega)]
    omega
  have hkept : kept coefficient exponent = roundHalfEven coefficient (10 ^ (k + 1)) := by
    rw [kept, hexcess, if_neg (by omega)]
  have hunit : (0 : ℚ) < (10 : ℚ) ^ lastKept coefficient exponent := by positivity
  have hrounds := Rounds.of_cut (show 0 < 10 by decide) coefficient (k + 1) exponent
  rw [Nat.cast_ofNat, ← hlast] at hrounds
  rw [← hkept] at hrounds
  obtain ⟨hlow, hhigh⟩ := value_bounds hne exponent
  have hleast := hrounds.le_of_mul_le hunit hlow
  have hgreatest := hrounds.le_of_le_mul hunit hhigh.le
  refine ⟨_, hrounds, hleast, hgreatest, ?_⟩
  rw [rounded?_eq_ite hne, hexcess, ← hlast, carried]
  by_cases hfull : kept coefficient exponent = 10 ^ precision
  · rw [if_pos hfull]
    simp only [Digits.count_pow, Nat.sub_add_cancel (show 1 ≤ precision by decide)]
  · have hcount : Digits.count (kept coefficient exponent) = precision :=
      Digits.count_eq hleast (lt_of_le_of_ne hgreatest hfull)
    rw [if_neg hfull]
    simp only [hcount]

/-! ### Numbers taken for one -/

/-- The magnitudes that are rounded to one: from half a unit in the last place below it, where the
units are smaller, up to half a unit above it. -/
def NearOne (x : ℚ) : Prop :=
  1 - (10 : ℚ) ^ (-28 : Int) / 2 ≤ x ∧ x ≤ 1 + (10 : ℚ) ^ (-27 : Int) / 2

theorem not_nearOne_of_le {x : ℚ} (h : x ≤ 1 / 2) : ¬NearOne x := by
  intro hx
  have hlow := hx.1
  norm_num at hlow
  linarith

theorem not_nearOne_of_ge {x : ℚ} (h : 2 ≤ x) : ¬NearOne x := by
  intro hx
  have hhigh := hx.2
  norm_num at hhigh
  linarith

theorem exponent_ge_of_le_value (coefficient : Nat) (exponent : Int) {k : Int}
    (h : (10 : ℚ) ^ k ≤ value 10 coefficient exponent) :
    k < exponent + Digits.count coefficient :=
  (zpow_lt_zpow_iff_right₀ (by norm_num)).mp (h.trans_lt (value_lt_of_count coefficient exponent))

/-- No number with as many digits as the working precision is near one but one itself. -/
theorem eq_one_of_nearOne (hcount : Digits.count coefficient ≤ precision)
    (h : NearOne (value 10 coefficient exponent)) : value 10 coefficient exponent = 1 := by
  obtain ⟨hlow, hhigh⟩ := h
  norm_num at hlow hhigh
  have hone : 1 ≤ value 10 coefficient exponent := by
    have hexponent := exponent_ge_of_le_value coefficient exponent (k := -1)
      (by norm_num; linarith)
    obtain ⟨m, hm⟩ := Scaled.exists_value_eq_mul (show 0 < 10 by decide) coefficient
      (show -28 ≤ exponent by unfold precision at hcount; omega)
    rw [hm] at hlow ⊢
    norm_num at hlow ⊢
    have hle : 10 ^ 28 ≤ m := by
      by_contra hlt
      have hcast : ((m + 1 : Nat) : ℚ) ≤ (10 ^ 28 : Nat) := Nat.cast_le.mpr (by omega)
      push_cast at hcast
      linarith
    have hcast : ((10 ^ 28 : Nat) : ℚ) ≤ m := Nat.cast_le.mpr hle
    push_cast at hcast
    linarith
  refine le_antisymm ?_ hone
  have hexponent := exponent_ge_of_le_value coefficient exponent (k := 0)
    (by rw [zpow_zero]; exact hone)
  obtain ⟨m, hm⟩ := Scaled.exists_value_eq_mul (show 0 < 10 by decide) coefficient
    (show -27 ≤ exponent by unfold precision at hcount; omega)
  rw [hm] at hhigh ⊢
  norm_num at hhigh ⊢
  have hle : m ≤ 10 ^ 27 := by
    by_contra hlt
    have hcast : ((10 ^ 27 + 1 : Nat) : ℚ) ≤ m := Nat.cast_le.mpr (by omega)
    push_cast at hcast
    linarith
  have hcast : (m : ℚ) ≤ (10 ^ 27 : Nat) := Nat.cast_le.mpr hle
  push_cast at hcast
  linarith

theorem nearOne_one : NearOne 1 := ⟨by norm_num, by norm_num⟩

/-- A number rounded on the grid of its size is one if and only if it is near one. -/
theorem mul_eq_one_iff_nearOne {x : ℚ} {last : Int} {n : Nat} (h : Rounds ((10 : ℚ) ^ last) x n)
    (hlow : (10 ^ (precision - 1) : Nat) * (10 : ℚ) ^ last ≤ x)
    (hhigh : x < (10 ^ precision : Nat) * (10 : ℚ) ^ last) (hlast : -28 ≤ last) :
    n * (10 : ℚ) ^ last = 1 ↔ NearOne x := by
  have hunit : (0 : ℚ) < (10 : ℚ) ^ last := by positivity
  have hnear := abs_le.mp h.near
  have hleast := h.le_of_mul_le hunit hlow
  rw [ten_pow_mul_zpow] at hlow hhigh
  rcases (by omega : last = -28 ∨ last = -27 ∨ -27 < last) with rfl | rfl | hlarge
  · -- below one, which is the next power of ten
    have hx : x < 1 := by simpa [precision] using hhigh
    constructor
    · intro hone
      rw [hone] at hnear
      exact ⟨by linarith [hnear.2], by norm_num; linarith⟩
    · intro hx'
      have hn : n = 10 ^ 28 := by
        refine h.eq_of_even hunit (by decide) ?_
        rw [ten_pow_mul_zpow, abs_le]
        have := hx'.1
        norm_num at this hx ⊢
        constructor <;> linarith
      rw [hn, ten_pow_mul_zpow]
      norm_num
  · -- from one on
    have hx : 1 ≤ x := by simpa [precision] using hlow
    constructor
    · intro hone
      rw [hone] at hnear
      exact ⟨by norm_num; linarith, by linarith [hnear.1]⟩
    · intro hx'
      have hn : n = 10 ^ 27 := by
        refine h.eq_of_even hunit (by decide) ?_
        rw [ten_pow_mul_zpow, abs_le]
        have := hx'.2
        norm_num at this hx ⊢
        constructor <;> linarith
      rw [hn, ten_pow_mul_zpow]
      norm_num
  · -- ten or more
    have hten : (10 : ℚ) ^ (1 : Int) ≤ (10 : ℚ) ^ (((precision - 1 : Nat) : Int) + last) := by
      refine zpow_le_zpow_right₀ (by norm_num) ?_
      simp only [precision]
      omega
    rw [zpow_one] at hten
    refine iff_of_false (fun hone => ?_) (not_nearOne_of_ge (by linarith))
    have hmul := mul_le_mul_of_nonneg_right (Nat.cast_le (α := ℚ) |>.mpr hleast) hunit.le
    rw [ten_pow_mul_zpow, hone] at hmul
    linarith

/-- What a magnitude is rounded to is one if and only if the magnitude is near one. -/
theorem isUnit_rounded?_iff {rounded : Nat} {last : Int}
    (h : rounded? coefficient exponent = some (rounded, last)) :
    isUnit rounded last ↔ NearOne (value 10 coefficient exponent) := by
  have hdouble := value_le_of_rounded? h
  rw [isUnit_iff]
  rcases lt_or_ge (value 10 coefficient exponent) (1 / 2) with hsmall | hlarge
  · refine iff_of_false (fun hone => ?_) (not_nearOne_of_le hsmall.le)
    rw [hone] at hdouble
    linarith
  have hexponent := exponent_ge_of_le_value coefficient exponent (k := -1)
    (by norm_num; linarith)
  have hne : coefficient ≠ 0 := by
    rintro rfl
    norm_num [value] at hlarge
  by_cases hcount : Digits.count coefficient ≤ precision
  · have hleast : leastExponent ≤ exponent := by
      unfold leastExponent precision at *
      omega
    rw [rounded?_of_short hne hcount hleast] at h
    split at h
    · cases h
    · cases h
      exact ⟨fun hone => hone ▸ nearOne_one, eq_one_of_nearOne hcount⟩
  · have hlast : -28 ≤ lastKept coefficient exponent := by
      unfold lastKept precision
      omega
    obtain ⟨n, hrounds, -, -, heq⟩ := exists_rounds (not_le.mp hcount) exponent
      (show leastExponent ≤ lastKept coefficient exponent by unfold leastExponent; omega)
    have hvalue := value_carried n (lastKept coefficient exponent)
    rw [heq] at h
    generalize carried n (lastKept coefficient exponent) = pair at h hvalue
    dsimp only at h
    split at h
    · cases h
    obtain ⟨rfl, rfl⟩ := Prod.mk.inj (Option.some.inj h)
    obtain ⟨hlow, hhigh⟩ := value_bounds hne exponent
    rw [hvalue]
    exact mul_eq_one_iff_nearOne hrounds hlow hhigh hlast

/-! ### Numbers past the range -/

/-- Half a unit below the power of ten that no result of arithmetic reaches. -/
def pastRange : ℚ := (10 ^ precision - 1 / 2) * (10 : ℚ) ^ (greatestExponent + 1 - precision)

theorem pastRange_le {x : ℚ} {k : Int} (hk : greatestExponent < k) (h : (10 : ℚ) ^ k ≤ x) :
    pastRange ≤ x := by
  have hpos : (0 : ℚ) < (10 : ℚ) ^ (greatestExponent + 1 - precision) := by positivity
  calc pastRange
      ≤ (10 ^ precision : Nat) * (10 : ℚ) ^ (greatestExponent + 1 - precision) := by
        refine mul_le_mul_of_nonneg_right ?_ hpos.le
        norm_num [precision]
    _ = (10 : ℚ) ^ (greatestExponent + 1) := by rw [ten_pow_mul_zpow, add_sub_cancel]
    _ ≤ (10 : ℚ) ^ k := zpow_le_zpow_right₀ (by norm_num) hk
    _ ≤ x := h

theorem lt_pastRange {x : ℚ} {k : Int} (hk : k ≤ greatestExponent) (h : x < (10 : ℚ) ^ k) :
    x < pastRange := by
  have hpos : (0 : ℚ) < (10 : ℚ) ^ (greatestExponent + 1 - precision) := by positivity
  calc x
      < (10 : ℚ) ^ k := h
    _ ≤ (10 : ℚ) ^ greatestExponent := zpow_le_zpow_right₀ (by norm_num) hk
    _ = (10 ^ (precision - 1) : Nat) * (10 : ℚ) ^ (greatestExponent + 1 - precision) := by
        rw [ten_pow_mul_zpow]
        congr 1
    _ ≤ pastRange := by
        refine mul_le_mul_of_nonneg_right ?_ hpos.le
        norm_num [precision]

/-- On the last grid, a number is past the range if and only if it is rounded up to the next power
of ten. -/
theorem pastRange_le_iff {x : ℚ} {n : Nat}
    (h : Rounds ((10 : ℚ) ^ (greatestExponent + 1 - precision)) x n) (hn : n ≤ 10 ^ precision) :
    pastRange ≤ x ↔ n = 10 ^ precision := by
  have hpos : (0 : ℚ) < (10 : ℚ) ^ (greatestExponent + 1 - precision) := by positivity
  have hnear := abs_le.mp h.near
  unfold pastRange
  generalize (10 : ℚ) ^ (greatestExponent + 1 - precision) = unit at *
  constructor
  · intro hpast
    by_contra hne
    refine hne (h.eq_of_even hpos (by decide) ?_)
    have hcast : ((n + 1 : Nat) : ℚ) ≤ (10 ^ precision : Nat) := Nat.cast_le.mpr (by omega)
    have hgrid := mul_le_mul_of_nonneg_right hcast hpos.le
    push_cast at hgrid ⊢
    rw [abs_le]
    constructor <;> linarith
  · rintro rfl
    push_cast at hnear
    linarith

/-- Rounding lets the number of digits decide, with one more where it carries. -/
theorem exists_carry (hne : coefficient ≠ 0) (exponent : Int)
    (hleast : leastExponent ≤ lastKept coefficient exponent) :
    ∃ n, Rounds ((10 : ℚ) ^ lastKept coefficient exponent) (value 10 coefficient exponent) n ∧
      n ≤ 10 ^ precision ∧
      (rounded? coefficient exponent = none ↔ greatestExponent + 1 <
        exponent + Digits.count coefficient + if n = 10 ^ precision then 1 else 0) := by
  by_cases hcount : Digits.count coefficient ≤ precision
  · obtain ⟨n, hn⟩ := Scaled.exists_value_eq_mul (show 0 < 10 by decide) coefficient
      (show lastKept coefficient exponent ≤ exponent by unfold lastKept; omega)
    have hbound := (value_bounds hne exponent).2
    rw [hn] at hbound
    have hlt : n < 10 ^ precision :=
      Nat.cast_lt.mp (lt_of_mul_lt_mul_right hbound (by positivity))
    refine ⟨n, .of_eq (by positivity) hn, hlt.le, ?_⟩
    rw [rounded?_of_short hne hcount (by unfold lastKept at hleast; omega), if_neg hlt.ne]
    split
    · exact iff_of_true rfl (by omega)
    · exact iff_of_false (by simp) (by omega)
  · obtain ⟨n, hrounds, -, hn, heq⟩ := exists_rounds (not_le.mp hcount) exponent hleast
    refine ⟨n, hrounds, hn, ?_⟩
    rw [heq, carried]
    by_cases hfull : n = 10 ^ precision
    · simp only [if_pos hfull]
      split
      · exact iff_of_true rfl (by unfold lastKept at *; omega)
      · exact iff_of_false (by simp) (by unfold lastKept at *; omega)
    · simp only [if_neg hfull]
      split
      · exact iff_of_true rfl (by unfold lastKept at *; omega)
      · exact iff_of_false (by simp) (by unfold lastKept at *; omega)

/-- A magnitude has no rounded form if and only if it is past the range. -/
theorem rounded?_eq_none_iff :
    rounded? coefficient exponent = none ↔ pastRange ≤ value 10 coefficient exponent := by
  by_cases hshort : coefficient = 0 ∨ exponent + Digits.count coefficient ≤ 28
  · have hsmall : value 10 coefficient exponent < (10 : ℚ) ^ (28 : Int) := by
      rcases hshort with rfl | hshort
      · rw [value, Nat.cast_zero, zero_mul]
        positivity
      · exact (value_lt_of_count coefficient exponent).trans_le
          (zpow_le_zpow_right₀ (by norm_num) hshort)
    refine iff_of_false (fun hnone => ?_) (not_le.mpr (lt_pastRange (by decide) hsmall))
    exact absurd (le_value_of_rounded?_eq_none hnone) (not_le.mpr hsmall)
  obtain ⟨hne, hlong⟩ := not_or.mp hshort
  have hlow := le_value_of_count hne exponent
  have hhigh := value_lt_of_count coefficient exponent
  obtain ⟨n, hrounds, hn, hnone⟩ := exists_carry hne exponent
    (by unfold lastKept leastExponent precision; omega)
  rw [hnone]
  -- only at the greatest exponent does it matter whether the rounding carries
  rcases lt_trichotomy (exponent + Digits.count coefficient) (greatestExponent + 1) with
    hbelow | htop | habove
  · have hpast := not_le.mpr (lt_pastRange (show _ ≤ greatestExponent by omega) hhigh)
    exact iff_of_false (by split <;> omega) hpast
  · have hlast : lastKept coefficient exponent = greatestExponent + 1 - precision := by
      unfold lastKept
      omega
    rw [hlast] at hrounds
    rw [pastRange_le_iff hrounds hn, htop]
    split
    · next hfull => exact iff_of_true (by omega) hfull
    · next hfull => exact iff_of_false (by omega) hfull
  · exact iff_of_true (by split <;> omega) (pastRange_le (by omega) hlow)

end Decimal

end Phrasebook
