import Mathlib.Data.Rat.Floor
import Phrasebook.Proofs.Number.Size

/-! Numbers without their fractions.  A magnitude is cut down to the floor of its exact value, so
that a signed number is rounded toward zero; and no number of 64 bits is too long to be written
then. -/

namespace Phrasebook

/-- A number without its fraction. -/
def towardZero (q : ℚ) : Int := if 0 ≤ q then ⌊q⌋ else ⌈q⌉

namespace Scaled

/-- The number `n * base ^ exponent` with a sign. -/
def signedValue (negative : Bool) (base n : Nat) (exponent : Int) : ℚ :=
  if negative then -value base n exponent else value base n exponent

theorem value_nonneg (base n : Nat) (exponent : Int) : 0 ≤ value base n exponent := by
  unfold value
  positivity

theorem abs_signedValue (negative : Bool) (base n : Nat) (exponent : Int) :
    |signedValue negative base n exponent| = value base n exponent := by
  have hnonneg := value_nonneg base n exponent
  unfold signedValue
  split
  · rw [abs_neg, abs_of_nonneg hnonneg]
  · rw [abs_of_nonneg hnonneg]

theorem wholePart_eq_floor {base : Nat} (hbase : 0 < base) (n : Nat) (exponent : Int) :
    (wholePart base n exponent : Int) = ⌊value base n exponent⌋ := by
  have hpos : ((fraction base n exponent).2 : ℚ) ≠ 0 :=
    Nat.cast_ne_zero.mpr (fraction_snd_pos hbase n exponent).ne'
  rw [eq_div_of_mul_eq hpos (fraction_fst hbase n exponent).symm, Rat.floor_natCast_div_natCast]
  rfl

theorem wholePart_eq_div (base n : Nat) (exponent : Int) : wholePart base n exponent =
    (fraction base n exponent).1 / (fraction base n exponent).2 := rfl

/-- A sign before a magnitude that lost its fraction: the number was rounded toward zero. -/
theorem signed_wholePart {base : Nat} (hbase : 0 < base) (negative : Bool) (n : Nat)
    (exponent : Int) :
    signed negative (wholePart base n exponent) =
      towardZero (signedValue negative base n exponent) := by
  have hnonneg := value_nonneg base n exponent
  unfold signed towardZero signedValue
  rw [wholePart_eq_floor hbase]
  cases negative with
  | false => exact (if_pos hnonneg).symm
  | true =>
    simp only [if_true, Left.nonneg_neg_iff]
    split
    · next hle =>
      rw [le_antisymm hle hnonneg]
      simp
    · exact Int.ceil_neg.symm

theorem wholePart_le {base : Nat} (hbase : 0 < base) (n : Nat) {exponent greatest : Int}
    (h : exponent ≤ greatest) : wholePart base n exponent ≤ n * base ^ greatest.toNat := by
  have hpow : 0 < base ^ greatest.toNat := Nat.pow_pos hbase
  rw [wholePart_eq_div]
  unfold fraction
  split
  · rw [Nat.div_one]
    exact Nat.mul_le_mul_left n (Nat.pow_le_pow_right hbase (by omega))
  · exact (Nat.div_le_self n _).trans (Nat.le_mul_of_pos_right n hpow)

end Scaled

theorem Decimal.wholePart_eq (coefficient : Nat) (exponent : Int) :
    wholePart coefficient exponent = Scaled.wholePart 10 coefficient exponent := by
  unfold wholePart
  split
  · next hsmall =>
    have hlt := Digits.lt_pow_count coefficient
    have hpos := Digits.count_pos coefficient
    rw [Scaled.wholePart_eq_div]
    unfold Scaled.fraction
    rcases hsmall with rfl | hsmall
    · split <;> simp
    · rw [if_neg (by omega)]
      refine (Nat.div_eq_of_lt (hlt.trans_le ?_)).symm
      exact Nat.pow_le_pow_right (by decide) (by omega)
  · rfl

namespace Digits

theorem exceedsLimit_iff {n : Nat} : exceedsLimit n ↔ 10 ^ limit ≤ n := by
  rw [exceedsLimit, Nat.pow_eq, decide_eq_true_iff]

end Digits

/-- The greatest number of 64 bits has far fewer digits than can be written. -/
theorem Binary64.not_exceedsLimit_wholePart {mantissa : Nat} {exponent : Int}
    (hmantissa : mantissa < 2 ^ 53) (hexponent : exponent ≤ greatestExponent) :
    ¬Digits.exceedsLimit (Scaled.wholePart 2 mantissa exponent) := by
  have hle := Scaled.wholePart_le Nat.two_pos mantissa hexponent
  have hlimit : 53 + greatestExponent.toNat ≤ Digits.limit := by decide
  rw [Digits.exceedsLimit_iff, Nat.not_le]
  generalize greatestExponent.toNat = greatest at hle hlimit
  calc Scaled.wholePart 2 mantissa exponent
      ≤ mantissa * 2 ^ greatest := hle
    _ < 2 ^ 53 * 2 ^ greatest := Nat.mul_lt_mul_of_pos_right hmantissa (Nat.two_pow_pos greatest)
    _ = 2 ^ (53 + greatest) := (Nat.pow_add 2 53 greatest).symm
    _ ≤ 10 ^ (53 + greatest) := Nat.pow_le_pow_left (by decide) _
    _ ≤ 10 ^ Digits.limit := Nat.pow_le_pow_right (by decide) hlimit

end Phrasebook
