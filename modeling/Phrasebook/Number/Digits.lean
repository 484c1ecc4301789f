import Phrasebook.Text.Basic

/-! Natural numbers as digits in a base, most significant first, and their signs. -/

namespace Phrasebook

/-- A magnitude with its sign. -/
def signed (negative : Bool) (magnitude : Nat) : Int := if negative then -magnitude else magnitude

namespace Digits

/-- The digits of `n` and behind them the digits `behind`. -/
def before (behind : List Nat) (base n : Nat) : List Nat :=
  if _ : n < base ∨ base < 2 then n :: behind else before (n % base :: behind) base (n / base)
termination_by n
decreasing_by exact Nat.div_lt_self (by omega) (by omega)

/-- The digits of `n`; zero has the one digit 0.  In a base below 2, `n` is its own only digit. -/
def ofNat (base n : Nat) : List Nat := before [] base n

theorem before_eq (behind : List Nat) (base n : Nat) :
    before behind base n = ofNat base n ++ behind := by
  unfold ofNat
  induction n using Nat.strongRecOn generalizing behind with
  | _ n ih =>
    by_cases h : n < base ∨ base < 2
    · rw [before.eq_def behind, before.eq_def [], dif_pos h, dif_pos h, List.singleton_append]
    · have hlt := Nat.div_lt_self (n := n) (k := base) (by omega) (by omega)
      rw [before, before.eq_def [], dif_neg h, dif_neg h, ih _ hlt, ih _ hlt [n % base],
        List.append_assoc, List.singleton_append]

theorem ofNat_eq (base n : Nat) :
    ofNat base n = if n < base ∨ base < 2 then [n] else ofNat base (n / base) ++ [n % base] := by
  rw [ofNat, before, before_eq]
  split <;> rfl

/-- The number whose digits are `digits`. -/
def toNat (base : Nat) (digits : List Nat) : Nat :=
  digits.foldl (fun n d => n * base + d) 0

theorem toNat_concat (base : Nat) (digits : List Nat) (d : Nat) :
    toNat base (digits ++ [d]) = toNat base digits * base + d := by
  simp [toNat]

theorem toNat_ofNat (base n : Nat) : toNat base (ofNat base n) = n := by
  induction n using Nat.strongRecOn with
  | _ n ih =>
    rw [ofNat_eq]
    split
    · simp [toNat]
    · next h =>
      rw [toNat_concat, ih (n / base) (Nat.div_lt_self (by omega) (by omega))]
      exact Nat.div_add_mod' n base

theorem lt_of_mem_ofNat {base n d : Nat} (hb : 2 ≤ base) (hd : d ∈ ofNat base n) : d < base := by
  induction n using Nat.strongRecOn with
  | _ n ih =>
    rw [ofNat_eq] at hd
    split at hd
    · simp only [List.mem_singleton] at hd
      omega
    · next h =>
      rcases List.mem_append.mp hd with hd | hd
      · exact ih (n / base) (Nat.div_lt_self (by omega) (by omega)) hd
      · simp only [List.mem_singleton] at hd
        exact hd ▸ Nat.mod_lt n (by omega)

theorem ofNat_ne_nil (base n : Nat) : ofNat base n ≠ [] := by
  rw [ofNat_eq]
  split <;> simp

/-- Digits without the zeros at their end. -/
def withoutTrailingZeros (digits : List Nat) : List Nat :=
  (digits.reverse.dropWhile (· == 0)).reverse

/-- The number of digits of `n` in base 10. -/
def count (n : Nat) : Nat := (ofNat 10 n).length

/-- The greatest number of decimal digits in which an integer is written or read. -/
def limit : Nat := 4300

/-- Whether a number has more digits than can be written; its digits need not be known for that. -/
def exceedsLimit (n : Nat) : Bool := Nat.pow 10 limit ≤ n

/-- The character of one digit: `0` to `9`, then `a` to `z`. -/
def character (d : Nat) : Nat := if d < 10 then '0'.toNat + d else 'a'.toNat + (d - 10)

def text (digits : List Nat) : Text := digits.map character

end Digits

namespace Text

/-- `n` written in `base`, in lower case and without leading zeros. -/
def numeral (base n : Nat) : Text := Digits.text (Digits.ofNat base n)

/-- `n` written in base 16 with at least `width` digits. -/
def hex (width n : Nat) : Text :=
  let digits := numeral 16 n
  List.replicate (width - digits.length) '0'.toNat ++ digits

/-- A minus sign, if there is to be one. -/
def minus (negative : Bool) : Text := if negative then ['-'.toNat] else []

/-- `n` in base 10, with a minus sign if it is negative. -/
def int (n : Int) : Text := minus (n < 0) ++ numeral 10 n.natAbs

end Text

open Text (lit numeral)

/-- That an integer has too many digits, whose number is given if they are there to be counted. -/
def Digits.limitMessage (count : Option Nat) : Text :=
  let counted := match count with
    | some n => lit ": value has " ++ numeral 10 n ++ lit " digits"
    | none => []
  lit "Exceeds the limit (" ++ numeral 10 limit ++ lit " digits) for integer string conversion" ++
    counted ++ lit "; use sys.set_int_max_str_digits() to increase the limit"

end Phrasebook
