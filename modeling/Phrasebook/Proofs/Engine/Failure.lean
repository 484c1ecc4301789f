import Phrasebook.Locale.Known
import Phrasebook.Proofs.Engine.InlineRules
import Phrasebook.Proofs.Plural.Fault

/-! How a call fails.  Every failure is of one of six kinds, unless the plural rules have no category
for a count, which happens to no counts but huge decimals, or a value of the argument has too many
digits to be written. -/

namespace Phrasebook

/-- The kinds of failures that a caller may expect. -/
inductive SubstitutionError.Kind where
  | malformedInlinePlural
  | argumentShapeMismatch
  | missingRequiredKey
  | positionalExhausted
  | formatConversion
  | recursionLimitExceeded
  deriving DecidableEq

/-- The kind of a failure; what is not caught has none. -/
def SubstitutionError.kind? : SubstitutionError → Option Kind
  | malformed _ => some .malformedInlinePlural
  | positionalFromMapping _ => some .argumentShapeMismatch
  | mappingRequired _ => some .argumentShapeMismatch
  | keyNotFound _ => some .missingRequiredKey
  | exhausted _ _ => some .positionalExhausted
  | conversion _ _ _ _ => some .formatConversion
  | tooDeep _ _ => some .recursionLimitExceeded
  | uncaught _ => none

namespace Argument

/-- The values that a placeholder can be filled with. -/
def Holds : Argument → Value → Prop
  | positional values, v => v ∈ values
  | keyed entries, v => ∃ key, Value.lookup key entries = some v

/-- Some value that a placeholder can be filled with cannot be written. -/
def TooLong (argument : Argument) : Prop := ∃ v, argument.Holds v ∧ v.TooLong

theorem mem_of_next {values : List Value} {used : Nat} {v : Value}
    (h : (next values used).1 = some v) : v ∈ values := by
  unfold next at h
  split at h
  · next hv =>
    cases h
    exact List.mem_of_getElem? hv
  · cases h

theorem tooLong_of_ofValue {v : Value} (h : (ofValue v).TooLong) : v.TooLong := by
  obtain ⟨held, hheld, hlong⟩ := h
  unfold ofValue at hheld
  split at hheld
  · obtain ⟨key, hlookup⟩ := hheld
    exact Value.tooLong_map_iff.mpr ⟨_, Value.mem_of_lookup hlookup, .inr hlong⟩
  · exact Value.tooLong_list_iff.mpr ⟨held, hheld, hlong⟩
  · exact Value.tooLong_tuple_iff.mpr ⟨held, hheld, hlong⟩
  · obtain rfl := List.mem_singleton.mp hheld
    exact hlong

end Argument

namespace Setting

/-- The argument binds a count for which the classifier fails. -/
def Lacks (setting : Setting) (fault : Plural.Fault) : Prop :=
  ∃ entries key v count, setting.argument = .keyed entries ∧ Value.lookup key entries = some v ∧
    v.count? = some count ∧ (setting.classifier count setting.locale).tag = .error fault

/-- The failure is of a kind, or it is a fault of the classifier, or a value cannot be written. -/
inductive Allows (setting : Setting) : SubstitutionError → Prop
  | kind {e : SubstitutionError} {kind : SubstitutionError.Kind} :
      e.kind? = some kind → Allows setting e
  | plural {fault : Plural.Fault} : setting.Lacks fault →
      Allows setting (.uncaught (.plural fault))
  | unwritable : setting.argument.TooLong → Allows setting (.uncaught .unwritable)

variable {setting : Setting}

/-- A fault of a choice is allowed, if all that is bound in the categories can be written unless the
argument holds what cannot. -/
theorem allows_of_choice {countKey : Text} {categories : List (Value × Value) → Option Value}
    {fault : Uncaught} (h : (setting.choice countKey categories).1 = .fault fault)
    (hbound : ∀ entries rules tag found, setting.argument = .keyed entries →
      categories entries = some (.map rules) → Value.lookup tag rules = some found →
      found.TooLong → setting.argument.TooLong) :
    setting.Allows (.uncaught fault) := by
  obtain ⟨choice, notes, hchooses⟩ := setting.exists_chooses countKey categories
  obtain rfl : choice = .fault fault := by rwa [hchooses.choice_eq] at h
  cases hchooses with
  | fault hcounts htag =>
    exact .plural ⟨_, countKey, _, _, hcounts.keyed, hcounts.bound, hcounts.isCount, htag⟩
  | unwritable hcounts htag htemplate =>
    obtain ⟨rfl, found, hlookup, hshown⟩ := Plural.templateFor_eq_error_iff.mp htemplate
    exact .unwritable (hbound _ _ _ found hcounts.keyed hcounts.isMap hlookup
      (Value.shown?_eq_none_iff.mp hshown))

theorem allows_of_choice? {s : Segment} {fault : Uncaught} {notes : List Note}
    (h : setting.choice? s = some (.fault fault, notes)) : setting.Allows (.uncaught fault) := by
  cases s with
  | literal text => cases h
  | positional spec => cases h
  | named key spec => cases h
  | value key => cases h
  | reference count rules =>
    refine allows_of_choice (congrArg Prod.fst (Option.some.inj h)) ?_
    intro entries categories tag found hkeyed hrules hfound hlong
    rw [hkeyed]
    have hmap : (Value.map categories).TooLong :=
      Value.tooLong_map_iff.mpr ⟨_, Value.mem_of_lookup hfound, .inr hlong⟩
    exact ⟨.map categories, ⟨rules, hrules⟩, hmap⟩
  | inline body plural =>
    refine allows_of_choice (congrArg Prod.fst (Option.some.inj h)) ?_
    -- What an inline plural binds is text, which can always be written.
    intro entries categories tag found hkeyed hcategories hfound hlong
    cases hcategories
    rw [InlinePlural.matches_categories plural tag] at hfound
    obtain ⟨chosen, -, rfl⟩ := Option.map_eq_some_iff.mp hfound
    cases Value.shown?_eq_none_iff.mpr hlong

end Setting

/-- A key that is required comes to a value of the argument. -/
theorem Rendering.holds_of_require {σ : Type} {argument : Argument} {key source : Text}
    {p q : Progress σ} {v : Value}
    (h : (require argument key source).run.run p = (.ok v, q)) : argument.Holds v := by
  unfold require at h
  split at h
  · cases h
  · next entries =>
    split at h
    · next hlookup =>
      cases h
      exact ⟨key, hlookup⟩
    · cases h

namespace Rendering.FailsWith

variable {σ α : Type} {setting : Setting}

theorem fetch (shelf : Shelf σ) (source : Text) :
    FailsWith setting.Allows (Rendering.fetch shelf source) := by
  refine bind (fun _ _ _ hrun => nomatch hrun) fun found => ?_
  cases found with
  | error fault => exact throw (.kind rfl)
  | ok t => exact pure t

theorem convert (spec : Conversion) {v : Value} (hv : setting.argument.Holds v) :
    FailsWith setting.Allows (Rendering.convert spec v : Rendering σ Text) := by
  unfold Rendering.convert
  split
  · exact pure _
  · next e hfault =>
    obtain ⟨fault, -, ⟨quoted, -, rfl⟩ | ⟨hlong, rfl⟩⟩ := Conversion.sprintf_eq_error_iff.mp hfault
    · exact throw (.kind rfl)
    · exact throw (.unwritable ⟨v, hv, hlong⟩)

theorem display {v : Value} (hv : setting.argument.Holds v) :
    FailsWith setting.Allows (Rendering.display v : Rendering σ Text) := by
  unfold Rendering.display
  split
  · exact pure _
  · next fault hfault =>
    obtain ⟨hlong, rfl⟩ := Value.written_eq_error_iff.mp hfault
    exact throw (.unwritable ⟨v, hv, hlong⟩)

theorem require (key source : Text) :
    FailsWith setting.Allows
      (Rendering.require setting.argument key source : Rendering σ Value) := by
  unfold Rendering.require
  split
  · exact throw (.kind rfl)
  · split
    · exact pure _
    · exact throw (.kind rfl)

/-- What comes behind a key that is required is done with a value of the argument. -/
theorem require_bind (key source : Text) {next : Value → Rendering σ α}
    (h : ∀ v, setting.argument.Holds v → FailsWith setting.Allows (next v)) :
    FailsWith setting.Allows (Rendering.require setting.argument key source >>= next) :=
  (require key source).bind_of_run fun v _ _ hrun => h v (holds_of_require hrun)

theorem renderPositional (spec : Conversion) (source : Text) :
    FailsWith setting.Allows
      (Rendering.renderPositional setting.argument spec source : Rendering σ Text) := by
  unfold Rendering.renderPositional
  split
  · exact throw (.kind rfl)
  · next values hargument =>
    refine bind_of_run (fun _ _ _ hrun => nomatch hrun) fun v p q hrun => ?_
    cases v with
    | none => exact throw (.kind rfl)
    | some v =>
      have hnext : (Argument.next values p.used).1 = some v :=
        Except.ok.inj (congrArg Prod.fst hrun)
      refine convert spec ?_
      rw [hargument]
      exact Argument.mem_of_next hnext

theorem follow {nested : Text → Text → Rendering σ Text} {source : Text} {choice : Plural.Choice}
    (hfault : ∀ fault, choice = .fault fault → setting.Allows (.uncaught fault))
    (h : ∀ chosen, FailsWith setting.Allows (nested source chosen)) :
    FailsWith setting.Allows (Rendering.follow nested source choice) := by
  cases choice with
  | unchanged reason => exact fun _ _ _ hrun => nomatch hrun
  | fault fault => exact throw (hfault fault rfl)
  | template chosen => exact h chosen

theorem renderPlural {nested : Text → Text → Rendering σ Text}
    (h : ∀ source chosen, FailsWith setting.Allows (nested source chosen)) {s : Segment}
    {choice : Plural.Choice × List Note} (hchoice : setting.choice? s = some choice) :
    FailsWith setting.Allows (Rendering.renderSegment setting nested s) := by
  obtain ⟨choice, notes⟩ := choice
  rw [renderSegment_of_choice? setting nested hchoice]
  refine bind (fun _ _ _ hrun => nomatch hrun) fun _ => follow ?_ (h s.source)
  rintro fault rfl
  exact Setting.allows_of_choice? hchoice

theorem renderAnySegment {nested : Text → Text → Rendering σ Text}
    (h : ∀ source chosen, FailsWith setting.Allows (nested source chosen)) (s : Segment) :
    FailsWith setting.Allows (Rendering.renderSegment setting nested s) := by
  cases s with
  | literal text => exact pure text
  | positional spec => exact renderPositional spec _
  | named key spec => exact require_bind key _ fun v hv => convert _ hv
  | value key => exact require_bind key _ fun v hv => display hv
  | reference count rules => exact renderPlural h rfl
  | inline body plural => exact renderPlural h rfl

theorem renderSegments {nested : Text → Text → Rendering σ Text}
    (h : ∀ source chosen, FailsWith setting.Allows (nested source chosen))
    (segments : List Segment) :
    FailsWith setting.Allows (Rendering.renderSegments setting nested segments) := by
  induction segments with
  | nil => exact pure []
  | cons s segments ih =>
    exact bind (renderAnySegment h s) fun text => bind ih fun rest => pure (text ++ rest)

/-- At every depth, a template fails in no other ways. -/
theorem render (shelf : Shelf σ) (levels : Nat) (t : Template) :
    FailsWith setting.Allows (Rendering.render shelf setting levels t) := by
  induction levels generalizing t with
  | zero => exact renderSegments (fun _ _ => throw (.kind rfl)) t.segments
  | succ levels ih =>
    exact renderSegments (fun _ chosen => bind (fetch shelf chosen) fun t => ih t) t.segments

end Rendering.FailsWith

theorem Argument.eq_map_of_ofValue {v : Value} {entries : List (Value × Value)}
    (h : ofValue v = .keyed entries) : v = .map entries := by
  cases v <;> cases h
  rfl

/-- A binary number that fits in 64 bits. -/
def Binary64.InFormat : Binary64 → Prop
  | .finite _ mantissa _ => mantissa < 2 ^ 53
  | _ => True

/-- Every binary number that the argument binds to a key fits in 64 bits. -/
def Value.BindsInFormat : Value → Prop
  | .map entries => ∀ key x, lookup key entries = some (.float x) → x.InFormat
  | _ => True

/-- A count that is huge is a decimal, as no binary number in 64 bits is. -/
theorem Value.decimal_of_huge {v : Value} {count : Count} (hcount : v.count? = some count)
    (hhuge : count.Huge) (hfits : ∀ x, v = .float x → x.InFormat) :
    ∃ negative coefficient exponent, v = .decimal (.finite negative coefficient exponent) ∧
      (10 : ℚ) ^ (28 : Int) ≤ Scaled.value 10 coefficient exponent := by
  unfold count? at hcount
  split at hcount
  · cases hcount
    exact hhuge.elim
  · next negative mantissa exponent =>
    cases hcount
    have hlt : mantissa < 2 ^ 53 := hfits _ rfl
    have hle : 10 ^ 28 ≤ mantissa := hhuge
    omega
  · next negative coefficient exponent =>
    cases hcount
    exact ⟨negative, coefficient, exponent, rfl, hhuge⟩
  · cases hcount

namespace Engine

theorem allows_of_format {e : Engine} {source : Text} {argument : Value} {locale : Option Text}
    {error : SubstitutionError} (h : (e.format source argument locale).1.text = .error error) :
    (e.callSetting argument locale).Allows error := by
  let shelf := Cache.fetch e.settings.cacheSize
  let setting := e.callSetting argument locale
  have hfails : Rendering.FailsWith setting.Allows
      (Rendering.fetch shelf source >>= Rendering.render shelf setting setting.limit) :=
    .bind (.fetch shelf source) fun t => .render shelf setting.limit t
  exact hfails ⟨e.cache, [], 0⟩ _ error (Prod.ext h rfl)

/-- With the plural rules, a call gives a text, or it fails in one of six ways, or some key is bound
to a decimal for which the rules have no category in the locale, and that is at least `10 ^ 28`, or
the argument holds an integer of too many digits.  Memory and the stack of calls are taken as
unbounded: neither a number that is written out nor the nesting of placeholders exhausts them. -/
theorem format_fails_by_kind [Locale.Catalog] {e : Engine}
    (hrules : e.classifier = Plural.Classifier.byRules)
    {argument : Value} (hfits : argument.BindsInFormat) (source : Text) (locale : Option Text) :
    (∃ text, (e.format source argument locale).1.text = .ok text) ∨
    (∃ error kind, (e.format source argument locale).1.text = .error error ∧
      error.kind? = some kind) ∨
    (∃ fault entries key negative coefficient exponent,
      (e.format source argument locale).1.text = .error (.uncaught (.plural fault)) ∧
        argument = .map entries ∧
        Value.lookup key entries = some (.decimal (.finite negative coefficient exponent)) ∧
        (Plural.Classifier.byRules (.decimal negative coefficient exponent)
          (effectiveLocale e.settings locale)).tag = .error fault ∧
        (10 : ℚ) ^ (28 : Int) ≤ Scaled.value 10 coefficient exponent) ∨
    (e.format source argument locale).1.text = .error (.uncaught .unwritable) ∧
      argument.TooLong := by
  cases htext : (e.format source argument locale).1.text with
  | ok text => exact .inl ⟨text, rfl⟩
  | error error =>
    cases allows_of_format htext with
    | kind hkind => exact .inr (.inl ⟨error, _, rfl, hkind⟩)
    | unwritable hlong => exact .inr (.inr (.inr ⟨rfl, Argument.tooLong_of_ofValue hlong⟩))
    | @plural fault hlacks =>
      obtain ⟨entries, key, v, count, hkeyed, hlookup, hcount, htag⟩ := hlacks
      obtain rfl : argument = .map entries := Argument.eq_map_of_ofValue hkeyed
      have hclassifier : (e.callSetting (.map entries) locale).classifier =
        Plural.Classifier.byRules := hrules
      rw [hclassifier] at htag
      obtain ⟨negative, coefficient, exponent, rfl, hle⟩ :=
        Value.decimal_of_huge hcount (Plural.huge_of_byRules_eq_error htag)
          fun x hx => hfits key x (hx ▸ hlookup)
      cases hcount
      exact .inr (.inr (.inl ⟨fault, entries, key, negative, coefficient, exponent, rfl, rfl,
        hlookup, htag, hle⟩))

/-- The fault of a classifier is not caught. -/
theorem format_of_fault {e : Engine} (he : e.Reachable) {source count rules : Text}
    {locale : Option Text}
    (hparse : Template.parse source = .ok ⟨source, [.reference count rules]⟩)
    {entries categories : List (Value × Value)} {v : Value} {n : Count} {fault : Plural.Fault}
    (hlookup : Value.lookup count entries = some v) (hcount : v.count? = some n)
    (hrules : Value.lookup rules entries = some (.map categories))
    (htag : (e.classifier n (effectiveLocale e.settings locale)).tag = .error fault) :
    (e.format source (.map entries) locale).1.text = .error (.uncaught (.plural fault)) := by
  have hchoice : (e.callSetting (.map entries) locale).choice? (.reference count rules) =
      some (.fault (.plural fault), (e.classifier n (effectiveLocale e.settings locale)).notes) := by
    exact congrArg some (Setting.Chooses.choice_eq (.fault ⟨rfl, hlookup, hcount, hrules⟩ htag))
  rw [he.format_of_parse hparse, Template.text_filled_of_choice? rfl rfl hchoice]
  rfl

open Text (lit)

set_option maxRecDepth 4000 in
theorem parse_reference : Template.parse (lit "%\x7bn:r\x7d") =
    .ok ⟨lit "%\x7bn:r\x7d", [.reference (lit "n") (lit "r")]⟩ := by cbv

/-- A decimal of thirty-one digits, counted in Lithuanian, where every category has the same
template: its quotient by ten is too long, and the failure is of no kind. -/
theorem format_quotientTooLong :
    let template := Value.text (lit "o")
    let rules := [(.text (lit "few"), template), (.text (lit "many"), template),
      (.text (lit "one"), template), (.text (lit "two"), template),
      (.text (lit "zero"), template), (.text (lit "other"), template)]
    let entries : List (Value × Value) :=
      [(.text (lit "n"), .decimal (.finite false 1 30)), (.text (lit "r"), .map rules)]
    (usual.format (lit "%\x7bn:r\x7d") (.map entries) (some (lit "lt"))).1.text =
        .error (.uncaught (.plural .quotientTooLong)) ∧
      (SubstitutionError.uncaught (.plural .quotientTooLong)).kind? = none :=
  ⟨format_of_fault (.create _ _) parse_reference rfl rfl rfl (by decide +kernel), rfl⟩

/-- A decimal past the range has no category in any locale. -/
theorem format_fails_by_kind_overflow :
    let entries : List (Value × Value) := [(.text (lit "n"), .decimal (.finite false 1 1000000)),
      (.text (lit "r"), .map [(.text (lit "other"), .text (lit "o"))])]
    usual.classifier = Plural.Classifier.byRules ∧ (Value.map entries).BindsInFormat ∧
      (usual.format (lit "%\x7bn:r\x7d") (.map entries) none).1.text =
        .error (.uncaught (.plural .overflow)) ∧
      ∃ key negative coefficient exponent,
        Value.lookup key entries = some (.decimal (.finite negative coefficient exponent)) ∧
          (10 : ℚ) ^ (28 : Int) ≤ Scaled.value 10 coefficient exponent := by
  intro entries
  have hfits : (Value.map entries).BindsInFormat := by
    intro key x h
    simp only [entries, Value.lookup] at h
    split at h
    · cases h
    · split at h <;> cases h
  have htext : (usual.format (lit "%\x7bn:r\x7d") (.map entries) none).1.text =
      .error (.uncaught (.plural .overflow)) :=
    format_of_fault (.create _ _) parse_reference rfl rfl rfl (by decide +kernel)
  refine ⟨rfl, hfits, htext, ?_⟩
  have hfails := format_fails_by_kind (e := usual) rfl hfits (lit "%\x7bn:r\x7d") none
  rw [htext] at hfails
  rcases hfails with ⟨text, h⟩ | ⟨error, kind, h, hkind⟩ |
    ⟨fault, entries', key, negative, coefficient, exponent, -, h, hlookup, -, hle⟩ | ⟨h, -⟩
  · cases h
  · cases h
    cases hkind
  · cases h
    exact ⟨key, negative, coefficient, exponent, hlookup, hle⟩
  · cases h

end Engine

end Phrasebook
