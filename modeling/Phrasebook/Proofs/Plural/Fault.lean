import Phrasebook.Plural.Classifier
import Phrasebook.Proofs.Locale.Find
import Phrasebook.Proofs.Number.Size

/-! Counts without a plural form.  The rules of every locale divide by ten or more, so that only
huge counts have quotients that are too long or are past the range. -/

namespace Phrasebook

open Scaled (value)

/-- A count at which arithmetic of the working precision may fail: a huge decimal, or a binary
number whose mantissa is past that of any number in 64 bits. -/
def Count.Huge : Count → Prop
  | .int _ => False
  | .binary _ mantissa _ => 10 ^ 28 ≤ mantissa
  | .decimal _ coefficient exponent => (10 : ℚ) ^ (28 : Int) ≤ value 10 coefficient exponent

namespace Plural

theorem remainder_eq_error {modulus : Nat} (hmodulus : 10 ≤ modulus) {q : Quantity} {fault : Fault}
    (h : remainder modulus q = .error fault) :
    ∃ coefficient exponent, q = .decimal coefficient exponent ∧
      (10 : ℚ) ^ (29 : Int) ≤ value 10 coefficient exponent := by
  cases q with
  | whole n => cases h
  | decimal coefficient exponent =>
    refine ⟨coefficient, exponent, rfl, ?_⟩
    have hden : 0 < (Scaled.fraction 10 coefficient exponent).2 :=
      Scaled.fraction_snd_pos (by decide) coefficient exponent
    simp only [remainder, Nat.pow_eq] at h
    split at h
    · next hlong =>
      have hle := (Nat.le_div_iff_mul_le (Nat.mul_pos (by omega) hden)).mp hlong
      have hnum : 10 ^ 29 * (Scaled.fraction 10 coefficient exponent).2 ≤
          (Scaled.fraction 10 coefficient exponent).1 := by
        refine Nat.le_trans ?_ hle
        rw [← Nat.mul_assoc]
        exact Nat.mul_le_mul_right _ (Nat.mul_le_mul_left (10 ^ Decimal.precision) hmodulus)
      have hcast : ((10 ^ 29 * (Scaled.fraction 10 coefficient exponent).2 : Nat) : ℚ) ≤
          (Scaled.fraction 10 coefficient exponent).1 := Nat.cast_le.mpr hnum
      rw [Nat.cast_mul, Scaled.fraction_fst (by decide)] at hcast
      refine le_of_mul_le_mul_right ?_ (Nat.cast_pos.mpr hden)
      exact_mod_cast hcast
    · cases h

/-- A term fails if the magnitude of the count has no remainder; the other operands are whole. -/
theorem Term.value_eq_error {o : Operands} {term : Term} {fault : Fault}
    (h : term.value o = .error fault) :
    ∃ modulus, term.modulus = some modulus ∧ remainder modulus o.n = .error fault := by
  unfold Term.value at h
  split at h
  · cases h
  · next modulus hmodulus =>
    refine ⟨modulus, hmodulus, ?_⟩
    cases hoperand : term.operand <;> rw [hoperand] at h
    case n => exact h
    all_goals cases h

theorem Relation.holds_eq_error {o : Operands} {r : Relation} {fault : Fault}
    (h : r.holds o = .error fault) : r.term.value o = .error fault := by
  unfold Relation.holds at h
  cases hvalue : r.term.value o with
  | error fault' =>
    rw [hvalue] at h
    cases h
    rfl
  | ok q =>
    rw [hvalue] at h
    cases h

/-- A test fails, or one of the two ways behind it. -/
theorem error_of_ite {α : Type} {test : Except Fault Bool} {yes no : Except Fault α} {fault : Fault}
    (h : (do if ← test then yes else no) = .error fault) :
    test = .error fault ∨ yes = .error fault ∨ no = .error fault := by
  cases test with
  | error fault' =>
    cases h
    exact .inl rfl
  | ok holds =>
    cases holds with
    | true => exact .inr (.inl h)
    | false => exact .inr (.inr h)

theorem allHold_eq_error {o : Operands} {relations : List Relation} {fault : Fault}
    (h : allHold o relations = .error fault) : ∃ r ∈ relations, r.holds o = .error fault := by
  induction relations with
  | nil => cases h
  | cons r relations ih =>
    rcases error_of_ite h with hfirst | hrest | hfalse
    · exact ⟨r, List.mem_cons_self, hfirst⟩
    · obtain ⟨r', hr', hfault⟩ := ih hrest
      exact ⟨r', List.mem_cons_of_mem r hr', hfault⟩
    · cases hfalse

theorem Condition.holds_eq_error {o : Operands} {condition : Condition} {fault : Fault}
    (h : condition.holds o = .error fault) :
    ∃ relations ∈ condition, allHold o relations = .error fault := by
  induction condition with
  | nil => cases h
  | cons relations condition ih =>
    rcases error_of_ite h with hfirst | htrue | hrest
    · exact ⟨relations, List.mem_cons_self, hfirst⟩
    · cases htrue
    · obtain ⟨relations', hmem, hfault⟩ := ih hrest
      exact ⟨relations', List.mem_cons_of_mem relations hmem, hfault⟩

theorem Rules.choose_eq_error {o : Operands} {rules : Rules} {fault : Fault}
    (h : rules.choose o = .error fault) : ∃ rule ∈ rules, rule.2.holds o = .error fault := by
  induction rules with
  | nil => cases h
  | cons rule rules ih =>
    rcases error_of_ite h with hfirst | hcategory | hrest
    · exact ⟨rule, List.mem_cons_self, hfirst⟩
    · cases hcategory
    · obtain ⟨rule', hmem, hfault⟩ := ih hrest
      exact ⟨rule', List.mem_cons_of_mem rule hmem, hfault⟩

theorem Rules.Coarse.exists_remainder {rules : Rules} (hcoarse : rules.Coarse) {o : Operands}
    {fault : Fault} (h : rules.choose o = .error fault) :
    ∃ modulus, 10 ≤ modulus ∧ remainder modulus o.n = .error fault := by
  obtain ⟨rule, hrule, hcondition⟩ := Rules.choose_eq_error h
  obtain ⟨relations, hrelations, hall⟩ := Condition.holds_eq_error hcondition
  obtain ⟨r, hr, hholds⟩ := allHold_eq_error hall
  obtain ⟨modulus, hmodulus, hremainder⟩ := Term.value_eq_error (Relation.holds_eq_error hholds)
  exact ⟨modulus, hcoarse rule hrule relations hrelations r hr modulus hmodulus, hremainder⟩

end Plural

namespace Count

open Plural (Fault)

theorem huge_of_magnitude_eq_error {count : Count} {fault : Fault}
    (h : count.magnitude = .error fault) : count.Huge := by
  cases count with
  | int n => cases h
  | binary negative mantissa exponent =>
    simp only [magnitude] at h
    split at h <;> cases h
  | decimal negative coefficient exponent =>
    simp only [magnitude] at h
    split at h
    · cases h
    · next hrounded => exact Decimal.le_value_of_rounded?_eq_none hrounded

theorem huge_of_magnitude_eq_decimal {count : Count} {coefficient : Nat} {exponent : Int}
    (h : count.magnitude = .ok (.decimal coefficient exponent))
    (hle : (10 : ℚ) ^ (29 : Int) ≤ value 10 coefficient exponent) : count.Huge := by
  cases count with
  | int n => cases h
  | binary negative mantissa exponent' =>
    simp only [magnitude] at h
    split at h
    · cases h
    · next hwhole =>
      -- The decimal is made of the shortest digits, and these are below the mantissa.
      obtain ⟨hmantissa, hexponent⟩ := Scaled.of_not_isWhole hwhole
      have hdigits := Shortest.value_digits_le hmantissa hexponent
      cases h
      have hbound : (10 : ℚ) ^ (28 : Int) ≤ mantissa :=
        (zpow_le_zpow_right₀ (by norm_num) (by decide)).trans (hle.trans hdigits)
      show 10 ^ 28 ≤ mantissa
      exact_mod_cast hbound
  | decimal negative coefficient' exponent' =>
    simp only [magnitude] at h
    split at h
    · next hrounded =>
      cases h
      have hdouble := hle.trans (Decimal.value_le_of_rounded? hrounded)
      rw [show (29 : Int) = 28 + 1 from rfl, zpow_add_one₀ (by norm_num)] at hdouble
      have hpos : 0 < (10 : ℚ) ^ (28 : Int) := by positivity
      show (10 : ℚ) ^ (28 : Int) ≤ value 10 coefficient' exponent'
      linarith
    · cases h

end Count

namespace Plural

theorem huge_of_category_eq_error {rules : Rules} (hcoarse : rules.Coarse) {count : Count}
    {fault : Fault} (h : rules.category count = .error fault) : count.Huge := by
  unfold Rules.category at h
  cases hmagnitude : count.magnitude with
  | error fault' => exact Count.huge_of_magnitude_eq_error hmagnitude
  | ok q =>
    rw [hmagnitude] at h
    obtain ⟨modulus, hmodulus, hremainder⟩ := hcoarse.exists_remainder h
    obtain ⟨coefficient, exponent, heq, hle⟩ := remainder_eq_error hmodulus hremainder
    have hq : q = .decimal coefficient exponent := heq
    exact Count.huge_of_magnitude_eq_decimal (hq ▸ hmagnitude) hle

/-- By the plural rules, only a huge count has no category, whatever the locale. -/
theorem huge_of_byRules_eq_error [Locale.Catalog] {count : Count} {locale : Text} {fault : Fault}
    (h : (Classifier.byRules count locale).tag = .error fault) : count.Huge := by
  unfold Classifier.byRules at h
  split at h
  · cases hmagnitude : count.magnitude with
    | error fault' => exact Count.huge_of_magnitude_eq_error hmagnitude
    | ok q =>
      rw [Count.isUnit, hmagnitude] at h
      cases h
  · next found hfind =>
    cases hcategory : found.rules.category count with
    | error fault' => exact huge_of_category_eq_error (Locale.coarse_of_find hfind) hcategory
    | ok category =>
      rw [hcategory] at h
      cases h

end Plural

end Phrasebook
