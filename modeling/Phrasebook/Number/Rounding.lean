/-! Natural numbers scaled by a power of a base, as fractions and without their fractions, and
quotients rounded to the nearest natural number. -/

namespace Phrasebook

namespace Scaled

/-- `n * base ^ exponent` as a numerator and a denominator. -/
def fraction (base n : Nat) (exponent : Int) : Nat × Nat :=
  if 0 ≤ exponent then (n * Nat.pow base exponent.toNat, 1)
  else (n, Nat.pow base (-exponent).toNat)

/-- `n * base ^ exponent` without its fraction. -/
def wholePart (base n : Nat) (exponent : Int) : Nat :=
  let (num, den) := fraction base n exponent
  num / den

/-- Whether `n * base ^ exponent` has no fraction. -/
def isWhole (base n : Nat) (exponent : Int) : Bool :=
  let (num, den) := fraction base n exponent
  num % den == 0

end Scaled

/-- The natural number nearest to `num / den`; of two equally near, the even one. -/
def roundHalfEven (num den : Nat) : Nat :=
  let q := num / den
  let twice := 2 * (num % den)
  if twice < den then q
  else if den < twice then q + 1
  else if q % 2 = 0 then q else q + 1

/-- Twice the distance from `num / den`, in units of `1 / den`, is at most `den`. -/
theorem roundHalfEven_near (num : Nat) {den : Nat} (h : 0 < den) :
    2 * num ≤ (2 * roundHalfEven num den + 1) * den ∧
      2 * roundHalfEven num den * den ≤ 2 * num + den := by
  have hm := Nat.div_add_mod num den
  have hlt := Nat.mod_lt num h
  rw [Nat.mul_comm] at hm
  simp only [roundHalfEven]
  repeat' split
  all_goals
    simp only [Nat.add_mul, Nat.mul_add, Nat.mul_assoc, Nat.one_mul]
    omega

theorem roundHalfEven_even_of_tie {num den : Nat} (h : 2 * (num % den) = den) :
    roundHalfEven num den % 2 = 0 := by
  simp only [roundHalfEven, h, Nat.lt_irrefl, if_false]
  split <;> omega

end Phrasebook
