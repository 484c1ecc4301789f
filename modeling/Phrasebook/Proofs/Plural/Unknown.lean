import Phrasebook.Locale.Known
import Phrasebook.Plural.Classifier
import Phrasebook.Proofs.Number.Precision

/-! Counts in locales that are not known.  Such a locale has one category for one and another for
all other counts.  Integers and binary numbers are told from one exactly; decimals are rounded to
the working precision first, so that a neighbour of one is taken for it and a number past the range
has no category. -/

namespace Phrasebook

open Scaled (value)

namespace Count

open Plural (Fault)

/-- The exact magnitude of a count. -/
def size : Count → ℚ
  | int n => n.natAbs
  | binary _ mantissa exponent => value 2 mantissa exponent
  | decimal _ coefficient exponent => value 10 coefficient exponent

/-- A count that is one, or that is a decimal and is rounded to one. -/
def NearOne : Count → Prop
  | int n => n.natAbs = 1
  | binary _ mantissa exponent => value 2 mantissa exponent = 1
  | decimal _ coefficient exponent => Decimal.NearOne (value 10 coefficient exponent)

/-- A decimal that is past the range of arithmetic. -/
def PastRange : Count → Prop
  | decimal _ coefficient exponent => Decimal.pastRange ≤ value 10 coefficient exponent
  | _ => False

/-- A count that is no decimal with more digits than the working precision. -/
def Short : Count → Prop
  | decimal _ coefficient _ => Digits.count coefficient ≤ Decimal.precision
  | _ => True

theorem nearOne_of_size {count : Count} (h : count.size = 1) : count.NearOne := by
  cases count with
  | int n => exact Nat.cast_eq_one.mp h
  | binary negative mantissa exponent => exact h
  | decimal negative coefficient exponent =>
    have hvalue : value 10 coefficient exponent = 1 := h
    show Decimal.NearOne (value 10 coefficient exponent)
    rw [hvalue]
    exact Decimal.nearOne_one

theorem Short.size_eq_one {count : Count} (hshort : count.Short) (h : count.NearOne) :
    count.size = 1 := by
  cases count with
  | int n => exact Nat.cast_eq_one.mpr h
  | binary negative mantissa exponent => exact h
  | decimal negative coefficient exponent => exact Decimal.eq_one_of_nearOne hshort h

/-- Half a unit from one, a count is far from the end of the range. -/
theorem NearOne.not_pastRange {count : Count} (h : count.NearOne) : ¬count.PastRange := by
  cases count with
  | int n => exact id
  | binary negative mantissa exponent => exact id
  | decimal negative coefficient exponent =>
    refine not_le.mpr (Decimal.lt_pastRange (k := 1) (by decide) (h.2.trans_lt ?_))
    norm_num

/-- Only what is past the range has no magnitude to compare. -/
theorem isUnit_of_pastRange {count : Count} (h : count.PastRange) :
    count.isUnit = .error .overflow := by
  cases count with
  | int n => exact h.elim
  | binary negative mantissa exponent => exact h.elim
  | decimal negative coefficient exponent =>
    rw [isUnit, magnitude, Decimal.rounded?_eq_none_iff.mpr h]
    rfl

/-- Whatever its kind, a count in the range is taken for one if and only if it is near one. -/
theorem isUnit_of_not_pastRange {count : Count} (h : ¬count.PastRange) :
    ∃ unit, count.isUnit = .ok unit ∧ (unit ↔ count.NearOne) := by
  cases count with
  | int n => exact ⟨_, rfl, beq_iff_eq⟩
  | binary negative mantissa exponent =>
    have hwhole : value 2 mantissa exponent = (1 : Nat) ↔
        Scaled.isWhole 2 mantissa exponent ∧ Scaled.wholePart 2 mantissa exponent = 1 :=
      Scaled.value_eq_iff Nat.two_pos
    rw [Nat.cast_one] at hwhole
    simp only [NearOne, hwhole, isUnit, magnitude]
    split
    · next h' => exact ⟨_, rfl, by rw [beq_iff_eq, and_iff_right h']⟩
    · next h' =>
      refine ⟨_, rfl, iff_of_false (fun hone => ?_) (fun hone => h' hone.1)⟩
      exact Shortest.value_digits_ne_one h' (Decimal.isUnit_iff.mp hone)
  | decimal negative coefficient exponent =>
    cases hrounded : Decimal.rounded? coefficient exponent with
    | none => exact absurd (Decimal.rounded?_eq_none_iff.mp hrounded) h
    | some rounded =>
      obtain ⟨rounded, last⟩ := rounded
      refine ⟨_, ?_, Decimal.isUnit_rounded?_iff hrounded⟩
      rw [isUnit, magnitude, hrounded]
      rfl

end Count

namespace Plural

open Text (lit)

variable {locale : Text} {fault : Locale.Fault}

theorem byRules_of_unknown [Locale.Catalog] (h : Locale.find locale = .error fault) (count : Count) :
    Classifier.byRules count locale =
      ⟨count.isUnit.map fun unit => (if unit then Category.one else Category.other).name,
        [.unknownLocale locale fault]⟩ := by
  rw [Classifier.byRules, h]

/-- In a locale that is not known every use of a count is noted, with the level of a warning.  The
count has no category if and only if it is past the range; else it is one if it is near one, which
only a decimal of more digits than the working precision can be without being one. -/
theorem categoryOf_of_unknown [Locale.Catalog] (h : Locale.find locale = .error fault) (v : Value) :
    (v.count? = none → categoryOf v locale = ⟨.ok Category.other.name, []⟩) ∧
      ∀ count, v.count? = some count →
        (categoryOf v locale).notes = [.unknownLocale locale fault] ∧
          (Note.unknownLocale locale fault).level = .warning ∧
          (count.PastRange → (categoryOf v locale).tag = .error .overflow) ∧
          (count.NearOne → (categoryOf v locale).tag = .ok Category.one.name) ∧
          (¬count.PastRange → ¬count.NearOne →
            (categoryOf v locale).tag = .ok Category.other.name) ∧
          (count.size = 1 → count.NearOne) ∧
          (count.Short → count.NearOne → count.size = 1) := by
  refine ⟨fun hcount => by rw [categoryOf, hcount], fun count hcount => ?_⟩
  have hcategory : categoryOf v locale = Classifier.byRules count locale := by
    rw [categoryOf, hcount]
  rw [hcategory, byRules_of_unknown h]
  refine ⟨rfl, rfl, fun hpast => ?_, fun hnear => ?_, fun hrange hnear => ?_,
    Count.nearOne_of_size, Count.Short.size_eq_one⟩
  · simp only [Count.isUnit_of_pastRange hpast]
    rfl
  · obtain ⟨unit, heq, hunit⟩ := Count.isUnit_of_not_pastRange hnear.not_pastRange
    simp only [heq, hunit.mpr hnear]
    rfl
  · obtain ⟨unit, heq, hunit⟩ := Count.isUnit_of_not_pastRange hrange
    simp only [heq, Bool.eq_false_iff.mpr (hnear ∘ hunit.mp)]
    rfl

theorem find_unknown : Locale.find (lit "xx_NOPE") = .error (.unknown (lit "xx_Nope")) := rfl

/-- A decimal of thirty digits is not one, but is taken for one; a decimal past the range, which is
not one either, has no category. -/
theorem categoryOf_nearlyOne :
    let nearlyOne := Value.decimal (.finite false (10 ^ 29 + 1) (-29))
    let huge := Value.decimal (.finite false 1 1000000)
    Locale.find (lit "xx_NOPE") = .error (.unknown (lit "xx_Nope")) ∧
      value 10 (10 ^ 29 + 1) (-29) ≠ 1 ∧
      (categoryOf nearlyOne (lit "xx_NOPE")).tag = .ok Category.one.name ∧
      (categoryOf huge (lit "xx_NOPE")).tag = .error .overflow := by
  refine ⟨find_unknown, ?_, ?_, ?_⟩
  · norm_num [value]
  · decide +kernel
  · decide +kernel

/-- A decimal of thirty digits below one. -/
theorem categoryOf_of_unknown_decimal :
    let count := Count.decimal true (10 ^ 30 - 1) (-30)
    Locale.find (lit "xx_NOPE") = .error (.unknown (lit "xx_Nope")) ∧
      (Value.decimal (.finite true (10 ^ 30 - 1) (-30))).count? = some count ∧
      count.NearOne ∧
      (categoryOf (.decimal (.finite true (10 ^ 30 - 1) (-30))) (lit "xx_NOPE")).tag =
        .ok Category.one.name := by
  intro count
  have hnear : count.NearOne := by
    show Decimal.NearOne (value 10 (10 ^ 30 - 1) (-30))
    constructor <;> norm_num [value]
  have h := (categoryOf_of_unknown find_unknown (.decimal (.finite true (10 ^ 30 - 1) (-30)))).2
    count rfl
  exact ⟨find_unknown, rfl, hnear, h.2.2.2.1 hnear⟩

end Plural

end Phrasebook
