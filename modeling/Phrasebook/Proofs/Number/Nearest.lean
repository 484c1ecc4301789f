import Phrasebook.Proofs.Number.Rounding

/-! The binary numbers nearest to fractions.  A fraction is rounded to the number of 64 bits that is
nearest to it, of two equally near to the one with the even mantissa, and to an infinity from half a
unit past the greatest number on; what 64 bits can hold stays as it is. -/

namespace Phrasebook.Binary64

open Scaled (value fraction)

/-- The mantissa and the exponent of a number of 64 bits. -/
structure Representable (mantissa : Nat) (exponent : Int) : Prop where
  mantissa_lt : mantissa < 2 ^ (52 + 1)
  least_le : leastExponent ≤ exponent
  le_greatest : exponent ≤ greatestExponent

/-- Half a unit past the greatest number. -/
def overflow : ℚ := value 2 (2 ^ 54 - 1) (greatestExponent - 1)

/-- The number of 64 bits that is nearest to the magnitude `x`, with a sign.  Its mantissa has all
53 bits unless its exponent is the least; of two numbers equally near it has the even mantissa. -/
inductive IsNearest (negative : Bool) (x : ℚ) : Binary64 → Prop
  | finite {mantissa : Nat} {exponent : Int} : x < overflow → Representable mantissa exponent →
      (2 ^ 52 ≤ mantissa ∨ exponent = leastExponent) →
      (∀ m e, Representable m e → |value 2 mantissa exponent - x| ≤ |value 2 m e - x|) →
      (∀ m e, Representable m e → value 2 m e ≠ value 2 mantissa exponent →
        |value 2 mantissa exponent - x| = |value 2 m e - x| → Even mantissa) →
      IsNearest negative x (.finite negative mantissa exponent)
  | infinity : overflow ≤ x → IsNearest negative x (.infinity negative)

/-! ### The exponent -/

theorem two_pow_mul_zpow (k : Nat) (e : Int) :
    ((2 ^ k : Nat) : ℚ) * (2 : ℚ) ^ e = (2 : ℚ) ^ ((k : Int) + e) :=
  Scaled.pow_mul_zpow (by decide) k e

/-- The numbers of bits bound a fraction. -/
theorem log2_bounds {num den : Nat} (hnum : num ≠ 0) (hden : den ≠ 0) :
    (2 : ℚ) ^ ((num.log2 : Int) - (den.log2 + 1)) ≤ num / den ∧
      (num / den : ℚ) < (2 : ℚ) ^ ((num.log2 : Int) + 1 - den.log2) := by
  have hden' : (0 : ℚ) < den := Nat.cast_pos.mpr (Nat.pos_of_ne_zero hden)
  have hlow {n : Nat} (hn : n ≠ 0) : ((2 : ℚ) ^ (n.log2 : Int)) ≤ n := by
    exact_mod_cast Nat.log2_self_le hn
  have hhigh (n : Nat) : (n : ℚ) < (2 : ℚ) ^ ((n.log2 : Int) + 1) := by
    exact_mod_cast Nat.lt_log2_self
  constructor
  · rw [zpow_sub₀ (by norm_num)]
    exact div_le_div₀ (Nat.cast_nonneg num) (hlow hnum) hden' (hhigh den).le
  · rw [zpow_sub₀ (by norm_num)]
    exact div_lt_div₀ (hhigh num) (hlow hden) (by positivity) (by positivity)

/-- The exponent is the one at which a fraction has 53 bits, or the least. -/
theorem exponentFor_spec {num den : Nat} (hnum : num ≠ 0) (hden : den ≠ 0) :
    leastExponent ≤ exponentFor num den ∧
      (num / den : ℚ) < (2 ^ (52 + 1) : Nat) * (2 : ℚ) ^ exponentFor num den ∧
      (leastExponent < exponentFor num den →
        (2 ^ 52 : Nat) * (2 : ℚ) ^ exponentFor num den ≤ num / den) := by
  have hden' : (0 : ℚ) < den := Nat.cast_pos.mpr (Nat.pos_of_ne_zero hden)
  obtain ⟨hlow, hhigh⟩ := log2_bounds hnum hden
  generalize hguess : (num.log2 : Int) - den.log2 - 53 = guess
  -- the test tells whether the guess is one too small
  have htest : num * (fraction 2 (den * 2 ^ 53) guess).2 < (fraction 2 (den * 2 ^ 53) guess).1 ↔
      (num / den : ℚ) < (2 ^ 53 : Nat) * (2 : ℚ) ^ guess := by
    have hone : (0 : ℚ) < (fraction 2 (den * 2 ^ 53) guess).2 :=
      Nat.cast_pos.mpr (Scaled.fraction_snd_pos (by decide) _ _)
    rw [← Nat.cast_lt (α := ℚ), Nat.cast_mul, Scaled.fraction_fst (by decide), value,
      mul_lt_mul_iff_left₀ hone, div_lt_iff₀ hden', Nat.cast_mul, mul_assoc, mul_comm (den : ℚ)]
    rfl
  simp only [exponentFor, hguess, Nat.pow_eq, htest]
  simp only [two_pow_mul_zpow]
  split
  · next hsmall =>
    refine ⟨le_max_right _ _, ?_, fun hleast => ?_⟩
    · exact hsmall.trans_le (zpow_le_zpow_right₀ (by norm_num) (by omega))
    · exact (zpow_le_zpow_right₀ (by norm_num) (by omega)).trans hlow
  · next hlarge =>
    refine ⟨le_max_right _ _, ?_, fun hleast => ?_⟩
    · exact hhigh.trans_le (zpow_le_zpow_right₀ (by norm_num) (by omega))
    · exact (zpow_le_zpow_right₀ (by norm_num) (by omega)).trans (not_lt.mp hlarge)

/-! ### Rounding -/

theorem overflow_eq : overflow = (2 ^ 53 - 1 / 2) * (2 : ℚ) ^ greatestExponent := by
  have hsplit : greatestExponent = greatestExponent - 1 + 1 := by omega
  rw [hsplit, zpow_add_one₀ (by norm_num), overflow, value]
  norm_num
  ring

variable {negative : Bool} {x : ℚ}

/-- What is rounded to 53 bits on the grid of a finite number is not past the greatest of them. -/
theorem lt_overflow {unit : Int} {n : Nat} (h : Rounds ((2 : ℚ) ^ unit) x n)
    (hn : n < 2 ^ (52 + 1)) (hunit : unit ≤ greatestExponent) : x < overflow := by
  have hnear := (abs_le.mp h.near).1
  have hpow : (2 : ℚ) ^ unit ≤ (2 : ℚ) ^ greatestExponent := zpow_le_zpow_right₀ (by norm_num) hunit
  have hpos : (0 : ℚ) < (2 : ℚ) ^ unit := by positivity
  have hn' : (n : ℚ) ≤ 2 ^ 53 - 1 := by
    have hle : n + 1 ≤ 2 ^ 53 := hn
    have hcast : ((n + 1 : Nat) : ℚ) ≤ (2 ^ 53 : Nat) := Nat.cast_le.mpr hle
    push_cast at hcast
    linarith
  have hgrid := mul_le_mul_of_nonneg_right hn' hpos.le
  have htop := mul_le_mul_of_nonneg_left hpow (by norm_num : (0 : ℚ) ≤ 2 ^ 53 - 1 / 2)
  by_contra hpast
  rw [overflow_eq, not_lt] at hpast
  -- then it is half a unit from the next mantissa, which is even
  have hcarry : n = 2 ^ 53 := by
    refine h.eq_of_even hpos (by decide) ?_
    push_cast
    rw [abs_le]
    constructor <;> linarith
  omega

theorem lt_overflow_of_lt {unit : Int} (h : x < (2 ^ (52 + 1) : Nat) * (2 : ℚ) ^ unit)
    (hunit : unit < greatestExponent) : x < overflow := by
  refine h.trans_le ?_
  have hpow : (2 : ℚ) ^ (unit + 1) ≤ (2 : ℚ) ^ greatestExponent :=
    zpow_le_zpow_right₀ (by norm_num) (by omega)
  rw [zpow_add_one₀ (by norm_num)] at hpow
  have hpos : (0 : ℚ) < (2 : ℚ) ^ greatestExponent := by positivity
  rw [overflow_eq]
  push_cast
  linarith

theorem overflow_le_of_le {unit : Int} (h : (2 ^ 52 : Nat) * (2 : ℚ) ^ unit ≤ x)
    (hunit : greatestExponent < unit) : overflow ≤ x := by
  refine le_trans ?_ h
  have hpow : (2 : ℚ) ^ (greatestExponent + 1) ≤ (2 : ℚ) ^ unit :=
    zpow_le_zpow_right₀ (by norm_num) (by omega)
  rw [zpow_add_one₀ (by norm_num)] at hpow
  have hpos : (0 : ℚ) < (2 : ℚ) ^ greatestExponent := by positivity
  rw [overflow_eq]
  push_cast
  linarith

/-- What is rounded up to 54 bits on the grid of the greatest number is past it. -/
theorem overflow_le_of_carry {unit : Int} (h : Rounds ((2 : ℚ) ^ unit) x (2 ^ 53))
    (hunit : greatestExponent ≤ unit) : overflow ≤ x := by
  have hnear := (abs_le.mp h.near).2
  have hpow : (2 : ℚ) ^ greatestExponent ≤ (2 : ℚ) ^ unit :=
    zpow_le_zpow_right₀ (by norm_num) hunit
  have htop := mul_le_mul_of_nonneg_left hpow (by norm_num : (0 : ℚ) ≤ 2 ^ 53 - 1 / 2)
  rw [overflow_eq]
  push_cast at hnear
  linarith

/-- What is rounded to the grid of its size is nearest among all numbers of 64 bits. -/
theorem IsNearest.of_rounds {unit exponent : Int} {n mantissa : Nat}
    (h : Rounds ((2 : ℚ) ^ unit) x n)
    (hlow : leastExponent < unit → (2 ^ 52 : Nat) * (2 : ℚ) ^ unit ≤ x)
    (hvalue : value 2 mantissa exponent = n * (2 : ℚ) ^ unit) (heven : Even n → Even mantissa)
    (hmem : Representable mantissa exponent) (hbits : 2 ^ 52 ≤ mantissa ∨ exponent = leastExponent)
    (hx : x < overflow) : IsNearest negative x (.finite negative mantissa exponent) := by
  have hlow' {m : Nat} {e : Int} (hme : Representable m e) (hlt : e < unit) :
      (2 ^ 52 : Nat) * ((2 : Nat) : ℚ) ^ unit ≤ x := hlow (hme.least_le.trans_lt hlt)
  refine .finite hx hmem hbits (fun m e hme => ?_) (fun m e hme hne htie => ?_)
  · rw [hvalue]
    exact h.le_abs_value_sub Nat.one_lt_two hme.mantissa_lt (hlow' hme)
  · rw [hvalue] at hne htie
    exact heven (h.even_of_value_tie Nat.one_lt_two hme.mantissa_lt (hlow' hme) hne htie)

/-- What is less than half of the least number is nearest to zero. -/
theorem isNearest_zero (hx : 0 ≤ x) (hlt : x ≤ (2 : ℚ) ^ leastExponent / 2) :
    IsNearest negative x (.finite negative 0 leastExponent) := by
  have hrounds : Rounds ((2 : ℚ) ^ leastExponent) x 0 := by
    refine ⟨?_, fun _ => Even.zero⟩
    rw [Nat.cast_zero, zero_mul, zero_sub, abs_neg, abs_of_nonneg hx]
    exact hlt
  refine .of_rounds hrounds (fun h => absurd h (lt_irrefl _)) ?_ id
    ⟨by decide, le_rfl, by decide⟩ (.inr rfl) (lt_overflow hrounds (by decide) (by decide))
  simp [value]

theorem rounds_mantissa (num : Nat) {den : Nat} (hden : 0 < den) (e : Int) :
    Rounds ((2 : ℚ) ^ e) (num / den)
      (roundHalfEven (num * (fraction 2 den e).2) (fraction 2 den e).1) := by
  have hden' : (den : ℚ) ≠ 0 := Nat.cast_ne_zero.mpr hden.ne'
  have hone : (0 : ℚ) < (fraction 2 den e).2 :=
    Nat.cast_pos.mpr (Scaled.fraction_snd_pos (by decide) den e)
  have hunit : ((fraction 2 den e).1 : ℚ) = den * (2 : ℚ) ^ e * (fraction 2 den e).2 :=
    Scaled.fraction_fst (by decide) den e
  have hpos : 0 < (fraction 2 den e).1 := by
    have hcast : (0 : ℚ) < (fraction 2 den e).1 := by
      rw [hunit]
      positivity
    exact Nat.cast_pos.mp hcast
  refine .of_quotient hpos (by positivity) ?_
  rw [hunit]
  push_cast
  field_simp

/-- A fraction is rounded to the nearest number. -/
theorem isNearest_nearest (negative : Bool) (num : Nat) {den : Nat} (hden : 0 < den) :
    IsNearest negative (num / den) (nearest negative num den) := by
  by_cases hnum : num = 0
  · rw [hnum, nearest, if_pos rfl]
    refine isNearest_zero (by simp) ?_
    rw [Nat.cast_zero, zero_div]
    positivity
  obtain ⟨hleast, hhigh, hlow⟩ := exponentFor_spec hnum hden.ne'
  have hrounds := rounds_mantissa num hden (exponentFor num den)
  simp only [nearest, if_neg hnum, Nat.pow_eq]
  generalize exponentFor num den = e at hleast hhigh hlow hrounds
  generalize roundHalfEven (num * (fraction 2 den e).2) (fraction 2 den e).1 = n at hrounds
  generalize (num / den : ℚ) = x at hhigh hlow hrounds
  have hpos : (0 : ℚ) < (2 : ℚ) ^ e := by positivity
  have hn : n ≤ 2 ^ (52 + 1) := hrounds.le_of_le_mul hpos hhigh.le
  have hbits : 2 ^ 52 ≤ n ∨ e = leastExponent := by
    rcases hleast.lt_or_eq with hlt | heq
    · exact .inl (hrounds.le_of_mul_le hpos (hlow hlt))
    · exact .inr heq.symm
  by_cases hcarry : n = 2 ^ 53
  · rw [if_pos hcarry]
    subst hcarry
    simp only
    split
    · next hpast => exact .infinity (overflow_le_of_carry hrounds (by omega))
    · next hpast =>
      refine .of_rounds hrounds hlow ?_ (fun _ => by decide) ⟨by decide, by omega, by omega⟩
        (.inl le_rfl) (lt_overflow_of_lt hhigh (by omega))
      rw [value, zpow_add_one₀ (by norm_num)]
      push_cast
      ring
  · rw [if_neg hcarry]
    have hlt : n < 2 ^ (52 + 1) := lt_of_le_of_ne hn hcarry
    simp only
    split
    · next hpast =>
      have hleast : leastExponent < e := lt_of_lt_of_le (by decide) hpast.le
      exact .infinity (overflow_le_of_le (hlow hleast) hpast)
    · next hpast =>
      have hgreatest := not_lt.mp hpast
      exact .of_rounds hrounds hlow rfl id ⟨hlt, hleast, hgreatest⟩ hbits
        (lt_overflow hrounds hlt hgreatest)

theorem tiny_le : (10 : ℚ) ^ (-331 : Int) ≤ (2 : ℚ) ^ leastExponent / 2 := by
  have hpow : (2 : ℚ) ^ (13 * 82 + 9) ≤ 10 ^ (4 * 82 + 3) := by
    rw [pow_add, pow_mul, pow_add 10, pow_mul 10]
    gcongr <;> norm_num
  have hhalf : (2 : ℚ) ^ leastExponent / 2 = (2 : ℚ) ^ (leastExponent - 1) :=
    (zpow_sub_one₀ (by norm_num) _).symm
  rw [hhalf, show leastExponent - 1 = -(13 * 82 + 9 : Nat) from rfl,
    show (-331 : Int) = -(4 * 82 + 3 : Nat) from rfl, zpow_neg, zpow_neg, zpow_natCast, zpow_natCast]
  exact inv_anti₀ (by positivity) hpow

theorem overflow_le_huge : overflow ≤ (10 : ℚ) ^ (310 : Int) := by
  have hpow : (2 : ℚ) ^ (93 * 11 + 1) ≤ 10 ^ (28 * 11 + 2) := by
    rw [pow_add, pow_mul, pow_add 10, pow_mul 10]
    gcongr <;> norm_num
  calc overflow
      = (2 ^ 53 - 1 / 2) * (2 : ℚ) ^ greatestExponent := overflow_eq
    _ ≤ 2 ^ 53 * (2 : ℚ) ^ greatestExponent :=
        mul_le_mul_of_nonneg_right (by norm_num) (by positivity)
    _ = 2 ^ (93 * 11 + 1) := by
        rw [show greatestExponent = (971 : Nat) from rfl, zpow_natCast, ← pow_add]
    _ ≤ 10 ^ (28 * 11 + 2) := hpow
    _ = (10 : ℚ) ^ (310 : Int) := (zpow_natCast 10 310).symm

/-- A decimal is rounded to the nearest number.  Where the number of its digits settles what that
is, it is less than half of the least number, or past the greatest. -/
theorem isNearest_ofDecimal (negative : Bool) (coefficient : Nat) (exponent : Int) :
    IsNearest negative (value 10 coefficient exponent) (ofDecimal negative coefficient exponent) := by
  simp only [ofDecimal]
  split
  · next hsmall =>
    refine isNearest_zero (Scaled.value_nonneg 10 coefficient exponent) ?_
    rcases hsmall with hzero | hsmall
    · rw [hzero, value, Nat.cast_zero, zero_mul]
      positivity
    · have hlt := Decimal.value_lt_of_count coefficient exponent
      have hpow : (10 : ℚ) ^ (exponent + Digits.count coefficient) ≤ (10 : ℚ) ^ (-331 : Int) :=
        zpow_le_zpow_right₀ (by norm_num) (by omega)
      exact hlt.le.trans (hpow.trans tiny_le)
  · next hsmall =>
    have hne : coefficient ≠ 0 := fun hzero => hsmall (.inl hzero)
    split
    · next hlarge =>
      refine .infinity (le_trans ?_ (Decimal.le_value_of_count hne exponent))
      have hpow : (10 : ℚ) ^ (310 : Int) ≤
          (10 : ℚ) ^ (exponent + Digits.count coefficient - 1) :=
        zpow_le_zpow_right₀ (by norm_num) (by omega)
      exact overflow_le_huge.trans hpow
    · split
      · next hexponent =>
        obtain ⟨k, rfl⟩ := Int.eq_ofNat_of_zero_le hexponent
        have hnear := isNearest_nearest negative (coefficient * 10 ^ k) Nat.one_pos
        have hvalue : ((coefficient * 10 ^ k : Nat) / (1 : Nat) : ℚ) = value 10 coefficient k := by
          simp [value]
        rwa [hvalue] at hnear
      · next hexponent =>
        obtain ⟨k, rfl⟩ : ∃ k : Nat, exponent = -(k : Int) := ⟨(-exponent).toNat, by omega⟩
        have hnear := isNearest_nearest negative coefficient (Nat.pow_pos (n := k) (a := 10)
          (by decide))
        have hvalue : (coefficient / (10 ^ k : Nat) : ℚ) = value 10 coefficient (-(k : Int)) := by
          simp [value, div_eq_mul_inv]
        rw [hvalue] at hnear
        simpa using hnear

/-! ### Uniqueness -/

/-- A mantissa and an exponent as they are kept: the exponent is as small as it can be. -/
structure Normal (mantissa : Nat) (exponent : Int) : Prop extends Representable mantissa exponent where
  bits : 2 ^ 52 ≤ mantissa ∨ exponent = leastExponent

section Uniqueness

variable {m n : Nat} {e f : Int}

theorem Normal.full (h : Normal m e) (hf : leastExponent ≤ f) (hlt : f < e) : 2 ^ 52 ≤ m :=
  h.bits.resolve_right (by omega)

theorem Normal.eq_of_le (h : Normal m e) (h' : Normal n f) (hle : e ≤ f)
    (heq : value 2 m e = value 2 n f) : m = n ∧ e = f := by
  obtain ⟨k, rfl⟩ := Int.le.dest hle
  have hpos : (0 : ℚ) < (2 : ℚ) ^ e := by positivity
  have hm : m = n * 2 ^ k := by
    rw [value, value, Nat.cast_ofNat, zpow_add₀ (by norm_num), mul_comm ((2 : ℚ) ^ e), ← mul_assoc,
      zpow_natCast] at heq
    exact_mod_cast mul_right_cancel₀ hpos.ne' heq
  cases k with
  | zero => exact ⟨by rw [hm, pow_zero, mul_one], by simp⟩
  | succ k =>
    -- the greater exponent could have been smaller
    have hn := h'.full h.least_le (by omega)
    have hlt := h.mantissa_lt
    have hdouble : n * 2 ≤ n * 2 ^ (k + 1) :=
      Nat.mul_le_mul_left n (Nat.le_self_pow (Nat.succ_ne_zero k) 2)
    omega

/-- Each value is kept in one way. -/
theorem Normal.eq_of_value_eq (h : Normal m e) (h' : Normal n f) (heq : value 2 m e = value 2 n f) :
    m = n ∧ e = f := by
  rcases le_total e f with hle | hle
  · exact h.eq_of_le h' hle heq
  · obtain ⟨hm, he⟩ := h'.eq_of_le h hle heq.symm
    exact ⟨hm.symm, he.symm⟩

/-- Nothing lies between a number and the next on its grid. -/
theorem Normal.next_le (h : Normal m e) (h' : Representable n f) (hlt : value 2 m e < value 2 n f) :
    value 2 (m + 1) e ≤ value 2 n f := by
  have hpos : (0 : ℚ) < ((2 : Nat) : ℚ) ^ e := by positivity
  rcases lt_or_ge f e with hsmaller | hle
  · have hfull : ((2 ^ 52 : Nat) : ℚ) ≤ m := Nat.cast_le.mpr (h.full h'.least_le hsmaller)
    have hbelow := Scaled.value_lt Nat.one_lt_two h'.mantissa_lt hsmaller
    have hgrid := mul_le_mul_of_nonneg_right hfull hpos.le
    exact absurd (hlt.trans hbelow) (not_lt.mpr hgrid)
  · obtain ⟨k, hk⟩ := Scaled.exists_value_eq_mul Nat.two_pos n hle
    rw [hk] at hlt ⊢
    have hmk : m < k := Nat.cast_lt.mp (lt_of_mul_lt_mul_right hlt hpos.le)
    exact mul_le_mul_of_nonneg_right (Nat.cast_le.mpr hmk) hpos.le

/-- Of two numbers only one is nearest: half-way between two neighbours, one mantissa is odd. -/
theorem not_lt_of_nearest (h : Normal m e) (h' : Normal n f) {x : ℚ}
    (hnear : ∀ k g, Representable k g → |value 2 m e - x| ≤ |value 2 k g - x|)
    (hdistance : |value 2 m e - x| = |value 2 n f - x|) (hm : Even m) (hn : Even n) :
    ¬value 2 m e < value 2 n f := by
  intro hlt
  have hmiddle : x - value 2 m e = value 2 n f - x := by
    rcases abs_eq_abs.mp hdistance with hsame | hopposite
    · linarith
    · linarith
  have hodd : m + 1 < 2 ^ (52 + 1) := by
    have hbound := h.mantissa_lt
    obtain ⟨k, hk⟩ := hm
    omega
  have hnext : Normal (m + 1) e :=
    ⟨⟨hodd, h.least_le, h.le_greatest⟩, h.bits.imp_left fun hfull => hfull.trans (Nat.le_succ m)⟩
  have hgrid : value 2 (m + 1) e = value 2 m e + (2 : ℚ) ^ e := by
    rw [value, value]
    push_cast
    ring
  have hpos : (0 : ℚ) < (2 : ℚ) ^ e := by positivity
  have hle := h.next_le h'.toRepresentable hlt
  have hfar := hnear _ _ hnext.toRepresentable
  have hother : value 2 n f = value 2 (m + 1) e := by
    refine le_antisymm ?_ hle
    rw [abs_of_neg (by linarith)] at hfar
    rcases le_abs.mp hfar with hright | hleft
    · linarith
    · linarith
  obtain ⟨hmn, -⟩ := h'.eq_of_value_eq hnext hother
  rw [hmn, Nat.even_add_one] at hn
  exact hn hm

/-- There is one nearest number. -/
theorem IsNearest.unique {y z : Binary64} (h : IsNearest negative x y)
    (h' : IsNearest negative x z) : y = z := by
  cases h with
  | @finite m e hx hm hbits hnear heven =>
    cases h' with
    | infinity hpast => exact absurd hx (not_lt.mpr hpast)
    | @finite n f _ hn hbits' hnear' heven' =>
      have hdistance := le_antisymm (hnear n f hn) (hnear' m e hm)
      have hnormal : Normal m e := ⟨hm, hbits⟩
      have hnormal' : Normal n f := ⟨hn, hbits'⟩
      by_cases heq : value 2 m e = value 2 n f
      · obtain ⟨rfl, rfl⟩ := hnormal.eq_of_value_eq hnormal' heq
        rfl
      · have hm := heven n f hn (Ne.symm heq) hdistance
        have hn := heven' m e hnormal.toRepresentable heq hdistance.symm
        rcases lt_or_gt_of_ne heq with hlt | hgt
        · exact absurd hlt (not_lt_of_nearest hnormal hnormal' hnear hdistance hm hn)
        · exact absurd hgt (not_lt_of_nearest hnormal' hnormal hnear' hdistance.symm hn hm)
  | infinity hpast =>
    cases h' with
    | finite hx _ _ _ _ => exact absurd hx (not_lt.mpr hpast)
    | infinity _ => rfl

end Uniqueness

/-! ### What can be held -/

theorem value_lt_overflow {mantissa : Nat} {exponent : Int} (h : Representable mantissa exponent) :
    value 2 mantissa exponent < overflow :=
  lt_overflow (.of_eq (by positivity) rfl) h.mantissa_lt h.le_greatest

/-- A number that 64 bits can hold is nearest to itself only. -/
theorem IsNearest.exists_value_eq {mantissa : Nat} {exponent : Int} {y : Binary64}
    (h : IsNearest negative (value 2 mantissa exponent) y)
    (hmem : Representable mantissa exponent) :
    ∃ m e, y = .finite negative m e ∧ value 2 m e = value 2 mantissa exponent := by
  cases h with
  | @finite m e _ _ _ hnear _ =>
    refine ⟨m, e, rfl, ?_⟩
    have hdistance := hnear mantissa exponent hmem
    rw [sub_self, abs_zero] at hdistance
    exact sub_eq_zero.mp (abs_nonpos_iff.mp hdistance)
  | infinity hpast => exact absurd (value_lt_overflow hmem) (not_lt.mpr hpast)

/-- An integer up to the first that 64 bits cannot hold is held exactly. -/
theorem exists_ofInt? {n : Int} (h : n.natAbs ≤ 2 ^ 53) :
    ∃ m e, ofInt? n = some (.finite (n < 0) m e) ∧ value 2 m e = n.natAbs := by
  obtain ⟨mantissa, exponent, hmem, hvalue⟩ : ∃ mantissa exponent,
      Representable mantissa exponent ∧ value 2 mantissa exponent = n.natAbs := by
    rcases h.lt_or_eq with hlt | heq
    · exact ⟨n.natAbs, 0, ⟨hlt, by decide, by decide⟩, by simp [value]⟩
    · exact ⟨2 ^ 52, 1, ⟨by decide, by decide, by decide⟩, by rw [heq]; norm_num [value]⟩
  have hnear := isNearest_nearest (n < 0) n.natAbs Nat.one_pos
  rw [Nat.cast_one, div_one, ← hvalue] at hnear
  obtain ⟨m, e, hnearest, heq⟩ := hnear.exists_value_eq hmem
  refine ⟨m, e, ?_, heq.trans hvalue⟩
  rw [ofInt?, hnearest]

end Phrasebook.Binary64
