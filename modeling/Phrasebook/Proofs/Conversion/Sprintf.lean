import Phrasebook.Engine.Error

/-! Values that cannot be written, and conversions with their handler.  A value has no text if some
integer in it has too many digits.  The handler takes every fault of a conversion, and fails itself
if and only if the value has no text to quote. -/

namespace Phrasebook

namespace Value

/-- A value stands in another one, which holds it as an item, as a key or under a key, at any
depth. -/
inductive Within (v : Value) : Value → Prop
  | itself : Within v v
  | list {w : Value} {items : List Value} : w ∈ items → Within v w → Within v (.list items)
  | tuple {w : Value} {items : List Value} : w ∈ items → Within v w → Within v (.tuple items)
  | key {k w : Value} {entries : List (Value × Value)} :
      (k, w) ∈ entries → Within v k → Within v (.map entries)
  | bound {k w : Value} {entries : List (Value × Value)} :
      (k, w) ∈ entries → Within v w → Within v (.map entries)

/-- Some integer in the value has more digits than can be written. -/
def TooLong (v : Value) : Prop := ∃ n : Int, (Value.int n).Within v ∧ Digits.exceedsLimit n.natAbs

theorem tooLong_int_iff {n : Int} : (Value.int n).TooLong ↔ Digits.exceedsLimit n.natAbs := by
  constructor
  · rintro ⟨m, hwithin, hlong⟩
    cases hwithin
    exact hlong
  · exact fun hlong => ⟨n, .itself, hlong⟩

theorem tooLong_list_iff {items : List Value} :
    (Value.list items).TooLong ↔ ∃ v ∈ items, v.TooLong := by
  constructor
  · rintro ⟨n, hwithin, hlong⟩
    cases hwithin with
    | list hmem hwithin => exact ⟨_, hmem, n, hwithin, hlong⟩
  · rintro ⟨v, hmem, n, hwithin, hlong⟩
    exact ⟨n, .list hmem hwithin, hlong⟩

theorem tooLong_tuple_iff {items : List Value} :
    (Value.tuple items).TooLong ↔ ∃ v ∈ items, v.TooLong := by
  constructor
  · rintro ⟨n, hwithin, hlong⟩
    cases hwithin with
    | tuple hmem hwithin => exact ⟨_, hmem, n, hwithin, hlong⟩
  · rintro ⟨v, hmem, n, hwithin, hlong⟩
    exact ⟨n, .tuple hmem hwithin, hlong⟩

theorem tooLong_map_iff {entries : List (Value × Value)} :
    (Value.map entries).TooLong ↔ ∃ entry ∈ entries, entry.1.TooLong ∨ entry.2.TooLong := by
  constructor
  · rintro ⟨n, hwithin, hlong⟩
    cases hwithin with
    | key hmem hwithin => exact ⟨_, hmem, .inl ⟨n, hwithin, hlong⟩⟩
    | bound hmem hwithin => exact ⟨_, hmem, .inr ⟨n, hwithin, hlong⟩⟩
  · rintro ⟨entry, hmem, ⟨n, hwithin, hlong⟩ | ⟨n, hwithin, hlong⟩⟩
    · exact ⟨n, .key hmem hwithin, hlong⟩
    · exact ⟨n, .bound hmem hwithin, hlong⟩

/-- A value without an integer in it has a text and is not too long. -/
theorem iff_tooLong_of_some {v : Value} {written : Option Text} {text : Text}
    (h : written = some text) (hv : ∀ n : Int, ¬(Value.int n).Within v) :
    written = Option.none ↔ v.TooLong :=
  iff_of_false (by simp [h]) fun ⟨n, hwithin, _⟩ => hv n hwithin

mutual

theorem quoted?_eq_none_iff : (v : Value) → (v.quoted? = Option.none ↔ v.TooLong)
  | .none => iff_tooLong_of_some rfl fun _ h => nomatch h
  | .bool _ => iff_tooLong_of_some rfl fun _ h => nomatch h
  | .int n => by simp [quoted?, tooLong_int_iff]
  | .float _ => iff_tooLong_of_some rfl fun _ h => nomatch h
  | .decimal _ => iff_tooLong_of_some rfl fun _ h => nomatch h
  | .moment _ => iff_tooLong_of_some rfl fun _ h => nomatch h
  | .text _ => iff_tooLong_of_some rfl fun _ h => nomatch h
  | .list items => by
    rw [quoted?, Option.map_eq_none_iff, quotedItems?_eq_none_iff items, tooLong_list_iff]
  | .tuple items => by
    rw [quoted?, Option.map_eq_none_iff, quotedItems?_eq_none_iff items, tooLong_tuple_iff]
  | .map entries => by
    rw [quoted?, Option.map_eq_none_iff, quotedEntries?_eq_none_iff entries, tooLong_map_iff]

theorem quotedItems?_eq_none_iff :
    (items : List Value) → (quotedItems? items = Option.none ↔ ∃ v ∈ items, v.TooLong)
  | [] => by simp [quotedItems?]
  | v :: items => by
    simp only [List.mem_cons, exists_eq_or_imp]
    rw [← quoted?_eq_none_iff v, ← quotedItems?_eq_none_iff items, quotedItems?]
    cases v.quoted? <;> cases quotedItems? items <;> simp

theorem quotedEntries?_eq_none_iff : (entries : List (Value × Value)) →
    (quotedEntries? entries = Option.none ↔ ∃ entry ∈ entries, entry.1.TooLong ∨ entry.2.TooLong)
  | [] => by simp [quotedEntries?]
  | (k, v) :: entries => by
    simp only [List.mem_cons, exists_eq_or_imp]
    rw [← quoted?_eq_none_iff k, ← quoted?_eq_none_iff v, ← quotedEntries?_eq_none_iff entries,
      quotedEntries?]
    cases k.quoted? <;> cases v.quoted? <;> cases quotedEntries? entries <;> simp

end

/-- Text and decimals are shown in ways of their own, all other values as they are quoted. -/
theorem shown?_eq_none_iff {v : Value} : v.shown? = Option.none ↔ v.TooLong := by
  cases v
  case text t => exact iff_tooLong_of_some rfl fun _ h => nomatch h
  case decimal d => exact iff_tooLong_of_some rfl fun _ h => nomatch h
  all_goals exact quoted?_eq_none_iff _

theorem written_eq_error_iff {v : Value} {fault : Uncaught} :
    v.written = .error fault ↔ v.TooLong ∧ fault = .unwritable := by
  rw [← shown?_eq_none_iff]
  unfold written
  split
  · next shown hshown => simp [hshown]
  · next hshown => rw [Except.error.injEq, and_iff_right hshown, eq_comm]

end Value

namespace Conversion

variable {spec : Conversion} {v : Value}

/-- No fault of a conversion passes its handler. -/
theorem Fault.errorClass_mem_caught (fault : Fault) : fault.errorClass ∈ caught := by
  cases fault <;> simp [errorClass, caught]

theorem sprintf_eq_ok_iff {text : Text} : spec.sprintf v = .ok text ↔ spec.apply v = .ok text := by
  unfold sprintf
  cases spec.apply v with
  | ok found => simp only [Except.ok.injEq]
  | error fault =>
    simp only [fault.errorClass_mem_caught, if_true]
    split <;> simp

/-- A conversion that fails gives its fault with the value in words, unless the value cannot be
written. -/
theorem sprintf_eq_error_iff {e : SubstitutionError} : spec.sprintf v = .error e ↔
    ∃ fault, spec.apply v = .error fault ∧
      ((∃ quoted, v.quoted? = some quoted ∧ e = .conversion v.kindName quoted spec fault) ∨
        v.TooLong ∧ e = .uncaught .unwritable) := by
  unfold sprintf
  rw [← Value.quoted?_eq_none_iff]
  cases spec.apply v with
  | ok found => simp
  | error fault =>
    simp only [fault.errorClass_mem_caught, if_true, Except.error.injEq, exists_eq_left']
    split
    · next quoted hquoted => simp [hquoted, eq_comm]
    · next hquoted => simp [hquoted, eq_comm]

end Conversion

end Phrasebook
