import Phrasebook.Plural.Classifier
import Phrasebook.Locale.Known
import Phrasebook.Proofs.Locale.Find
import Phrasebook.Proofs.Number.Nearest
import Phrasebook.Proofs.Number.Precision

/-! The plural category of a whole number.  The rules see a whole number in two forms, as it is or
as a decimal without a fraction; they read both alike and never fail on them, so that the category
depends on the magnitude alone. -/

namespace Phrasebook

open Scaled (value)

/-! ### The two forms -/

/-- A quantity is the whole number `n`, written without digits behind the point. -/
inductive Quantity.Holds : Quantity → Nat → Prop
  | whole (n : Nat) : Holds (.whole n) n
  | decimal (n : Nat) : Holds (.decimal n 0) n

namespace Quantity.Holds

variable {q : Quantity} {n : Nat}

theorem value_decimal (n : Nat) : value 10 n 0 = n := by rw [value, zpow_zero, mul_one]

theorem whole?_eq (h : q.Holds n) : q.whole? = some n := by
  cases h with
  | whole => rfl
  | decimal =>
    obtain ⟨hwhole, hpart⟩ := (Scaled.value_eq_iff (by decide)).mp (value_decimal n)
    rw [Quantity.whole?, if_pos hwhole, hpart]

theorem wholePart_eq (h : q.Holds n) : q.wholePart = n := by
  cases h with
  | whole => rfl
  | decimal =>
    rw [Quantity.wholePart, Decimal.wholePart_eq]
    exact ((Scaled.value_eq_iff (by decide)).mp (value_decimal n)).2

end Quantity.Holds

namespace Plural

variable {q : Quantity} {n : Nat}

theorem fractionDigits_of_holds (h : q.Holds n) : fractionDigits q = [] := by
  cases h with
  | whole => rfl
  | decimal =>
    rw [fractionDigits]
    exact List.drop_eq_nil_of_le (Nat.le_refl _)

/-! ### The rules -/

/-- The value of an operand at a whole number, which has no digits behind the point. -/
def Operand.atWhole (n : Nat) : Operand → Nat
  | .n => n
  | .i => n
  | _ => 0

theorem Operand.atWhole_le (n : Nat) (operand : Operand) : operand.atWhole n ≤ n := by
  cases operand <;> simp [atWhole]

theorem Operands.get_holds (h : q.Holds n) (operand : Operand) :
    ((ofQuantity q).get operand).Holds (operand.atWhole n) := by
  simp only [ofQuantity, fractionDigits_of_holds h, h.wholePart_eq]
  cases operand with
  | n => exact h
  | i => exact .whole n
  | v => exact .whole 0
  | f => exact .whole 0
  | t => exact .whole 0
  | e => exact .whole 0

/-- A quotient of a number that is below the working precision is not too long. -/
theorem remainder_of_holds (h : q.Holds n) (hn : n < 10 ^ Decimal.precision) (modulus : Nat) :
    ∃ r, remainder modulus q = .ok r ∧ r.Holds (n % modulus) := by
  cases h with
  | whole => exact ⟨_, rfl, .whole _⟩
  | decimal =>
    have hfraction : Scaled.fraction 10 n 0 = (n, 1) := by simp [Scaled.fraction]
    refine ⟨.decimal (n % modulus) 0, ?_, .decimal _⟩
    have hquotient : ¬10 ^ Decimal.precision ≤ n / (modulus * 1) :=
      not_le.mpr ((Nat.div_le_self _ _).trans_lt hn)
    simp only [remainder, hfraction, Nat.pow_eq]
    rw [if_neg hquotient, Nat.mul_one]
    rfl

def Term.atWhole (n : Nat) (term : Term) : Nat :=
  match term.modulus with
  | none => term.operand.atWhole n
  | some modulus => term.operand.atWhole n % modulus

theorem Term.value_of_holds (h : q.Holds n) (hn : n < 10 ^ Decimal.precision) (term : Term) :
    ∃ r, term.value (.ofQuantity q) = .ok r ∧ r.Holds (term.atWhole n) := by
  have hoperand := Operands.get_holds h term.operand
  rw [Term.value, atWhole]
  cases term.modulus with
  | none => exact ⟨_, rfl, hoperand⟩
  | some modulus =>
    exact remainder_of_holds hoperand ((Operand.atWhole_le n term.operand).trans_lt hn) modulus

def Relation.atWhole (n : Nat) (r : Relation) : Bool :=
  (r.ranges.any fun (low, high) => low ≤ r.term.atWhole n && r.term.atWhole n ≤ high) == r.inside

theorem Relation.holds_of_holds (h : q.Holds n) (hn : n < 10 ^ Decimal.precision) (r : Relation) :
    r.holds (.ofQuantity q) = .ok (r.atWhole n) := by
  obtain ⟨x, hvalue, hx⟩ := Term.value_of_holds h hn r.term
  rw [Relation.holds, hvalue]
  simp only [bind, Except.bind, inRanges, hx.whole?_eq]
  rfl

theorem allHold_of_holds (h : q.Holds n) (hn : n < 10 ^ Decimal.precision)
    (relations : List Relation) :
    allHold (.ofQuantity q) relations = .ok (relations.all (·.atWhole n)) := by
  induction relations with
  | nil => rfl
  | cons r relations ih =>
    rw [allHold, Relation.holds_of_holds h hn, ih, List.all_cons]
    cases r.atWhole n <;> rfl

def Condition.atWhole (n : Nat) (condition : Condition) : Bool :=
  condition.any (·.all (·.atWhole n))

theorem Condition.holds_of_holds (h : q.Holds n) (hn : n < 10 ^ Decimal.precision)
    (condition : Condition) :
    condition.holds (.ofQuantity q) = .ok (condition.atWhole n) := by
  induction condition with
  | nil => rfl
  | cons relations condition ih =>
    rw [Condition.holds, allHold_of_holds h hn, ih, atWhole, atWhole, List.any_cons]
    cases relations.all (·.atWhole n) <;> rfl

/-- The first category whose condition a whole number meets, or else `other`. -/
def Rules.atWhole (n : Nat) (rules : Rules) : Category :=
  match rules.find? (·.2.atWhole n) with
  | some rule => rule.1
  | none => .other

/-- The rules do not fail on a whole number, and tell its two forms apart nowhere. -/
theorem Rules.choose_of_holds (h : q.Holds n) (hn : n < 10 ^ Decimal.precision) (rules : Rules) :
    rules.choose (.ofQuantity q) = .ok (rules.atWhole n) := by
  induction rules with
  | nil => rfl
  | cons rule rules ih =>
    rw [Rules.choose, Condition.holds_of_holds h hn, ih, atWhole, atWhole, List.find?_cons]
    cases rule.2.atWhole n <;> rfl

/-- The category of a whole number in a locale, known or not. -/
def wholeCategory [Locale.Catalog] (locale : Text) (n : Nat) : Category :=
  match Locale.find locale with
  | .ok found => found.rules.atWhole n
  | .error _ => if n = 1 then .one else .other

end Plural

/-! ### Counts -/

/-- A count is the whole number `n` with one sign or the other; a decimal has no digits behind the
point then. -/
def Count.Holds : Count → Nat → Prop
  | .int k, n => k.natAbs = n
  | .binary _ mantissa exponent, n => value 2 mantissa exponent = n
  | .decimal _ coefficient exponent, n => coefficient = n ∧ exponent = 0

theorem Decimal.rounded?_of_lt {n : Nat} (hn : n < 10 ^ precision) :
    rounded? n 0 = some (n, 0) := by
  by_cases hzero : n = 0
  · rw [hzero]
    rfl
  · have hpow := (Digits.le_of_count hzero).trans_lt hn
    have hcount : Digits.count n - 1 < precision := (Nat.pow_lt_pow_iff_right (by decide)).mp hpow
    rw [rounded?_of_short hzero (by omega) (by decide), if_neg]
    unfold precision greatestExponent at *
    omega

namespace Count.Holds

open Plural

variable {count : Count} {n : Nat}

theorem exists_magnitude (h : count.Holds n) (hn : n < 10 ^ Decimal.precision) :
    ∃ q, count.magnitude = .ok q ∧ q.Holds n := by
  cases count with
  | int k =>
    cases h
    exact ⟨_, rfl, .whole _⟩
  | binary negative mantissa exponent =>
    obtain ⟨hwhole, hpart⟩ := (Scaled.value_eq_iff Nat.two_pos).mp h
    refine ⟨.whole n, ?_, .whole n⟩
    rw [magnitude, if_pos hwhole, hpart]
  | decimal negative coefficient exponent =>
    obtain ⟨rfl, rfl⟩ := h
    refine ⟨.decimal coefficient 0, ?_, .decimal coefficient⟩
    rw [magnitude, Decimal.rounded?_of_lt hn]

theorem isUnit_eq (h : count.Holds n) (hn : n < 10 ^ Decimal.precision) :
    count.isUnit = .ok (n == 1) := by
  obtain ⟨q, hmagnitude, hq⟩ := h.exists_magnitude hn
  rw [isUnit, hmagnitude]
  cases hq with
  | whole => rfl
  | decimal =>
    refine congrArg Except.ok ?_
    rw [Bool.eq_iff_iff, Decimal.isUnit_iff, Quantity.Holds.value_decimal, beq_iff_eq,
      Nat.cast_eq_one]

theorem tag_eq [Locale.Catalog] (h : count.Holds n) (hn : n < 10 ^ Decimal.precision)
    (locale : Text) :
    (Classifier.byRules count locale).tag = .ok (wholeCategory locale n).name := by
  unfold Classifier.byRules wholeCategory
  cases Locale.find locale with
  | error fault =>
    simp only [h.isUnit_eq hn, Except.map, beq_iff_eq]
  | ok found =>
    obtain ⟨q, hmagnitude, hq⟩ := h.exists_magnitude hn
    simp only [Rules.category, hmagnitude, Except.bind, Rules.choose_of_holds hq hn, Except.map]

end Count.Holds

namespace Plural

open Text (lit replaced)

theorem Category.name_mem (category : Category) : category.name ∈
    [lit "zero", lit "one", lit "two", lit "few", lit "many", lit "other"] := by
  cases category <;> decide

/-- An integer that 64 bits hold has one category in each locale, however the number and the locale
are written: with either sign, as an integer, a binary number or a decimal. -/
theorem category_of_whole [Locale.Catalog] {n : Int} (hn : n.natAbs ≤ 2 ^ 53) (locale : Text) :
    ∃ category : Category,
      category.name ∈ [lit "zero", lit "one", lit "two", lit "few", lit "many", lit "other"] ∧
      ∀ spelling, replaced '-'.toNat '_'.toNat spelling = replaced '-'.toNat '_'.toNat locale →
        (categoryOf (.int n) spelling).tag = .ok category.name ∧
        (categoryOf (.int (-n)) spelling).tag = .ok category.name ∧
        (∃ x, Binary64.ofInt? n = some x ∧
          (categoryOf (.float x) spelling).tag = .ok category.name) ∧
        (∀ negative mantissa exponent, Scaled.signedValue negative 2 mantissa exponent = n →
          (categoryOf (.float (.finite negative mantissa exponent)) spelling).tag =
            .ok category.name) ∧
        (categoryOf (.decimal (.finite (n < 0) n.natAbs 0)) spelling).tag = .ok category.name := by
  have hlt : n.natAbs < 10 ^ Decimal.precision :=
    hn.trans_lt (by decide)
  refine ⟨wholeCategory locale n.natAbs, Category.name_mem _, fun spelling hspelling => ?_⟩
  have htag (count : Count) (h : count.Holds n.natAbs) :
      (Classifier.byRules count spelling).tag = .ok (wholeCategory locale n.natAbs).name := by
    rw [h.tag_eq hlt, wholeCategory, wholeCategory, Locale.find_congr hspelling]
  refine ⟨htag (.int n) rfl, htag (.int (-n)) (Int.natAbs_neg n), ?_, ?_,
    htag (.decimal (n < 0) n.natAbs 0) ⟨rfl, rfl⟩⟩
  · obtain ⟨m, e, hx, hvalue⟩ := Binary64.exists_ofInt? hn
    exact ⟨_, hx, htag (.binary (n < 0) m e) hvalue⟩
  · intro negative mantissa exponent hvalue
    refine htag (.binary negative mantissa exponent) ?_
    have habs := Scaled.abs_signedValue negative 2 mantissa exponent
    rw [hvalue] at habs
    show value 2 mantissa exponent = n.natAbs
    rw [← habs, Nat.cast_natAbs, Int.cast_abs]

/-- The least of these integers as a decimal has the category of its opposite. -/
theorem category_of_whole_least :
    (-2 ^ 53 : Int).natAbs ≤ 2 ^ 53 ∧
      replaced '-'.toNat '_'.toNat (lit "ru-RU") = replaced '-'.toNat '_'.toNat (lit "ru_RU") ∧
      (categoryOf (.int (2 ^ 53)) (lit "ru_RU")).tag = .ok Category.few.name ∧
      (categoryOf (.decimal (.finite true (2 ^ 53) 0)) (lit "ru-RU")).tag =
        .ok Category.few.name := by
  obtain ⟨category, -, h⟩ := category_of_whole (n := -2 ^ 53) (by decide) (lit "ru_RU")
  have hopposite := (h (lit "ru_RU") rfl).2.1
  have hdecimal := (h (lit "ru-RU") (by decide)).2.2.2.2
  have hfew : (categoryOf (.int (2 ^ 53)) (lit "ru_RU")).tag = .ok Category.few.name := by
    decide +kernel
  exact ⟨by decide, by decide, hfew, hdecimal.trans (hopposite.symm.trans hfew)⟩

end Plural

end Phrasebook
