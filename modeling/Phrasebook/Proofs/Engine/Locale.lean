import Phrasebook.Proofs.Engine.Fallback
import Phrasebook.Proofs.Engine.FirstFailure

/-! The locale of a call.  A call asks its classifier in one locale at every depth: in the one that
it is given, or in the engine's where it is given none.  What the classifier says of any other
locale, and what else the engine's own locale might be, makes no difference to the answer. -/

namespace Phrasebook

namespace Setting

/-- The classifier is asked for the category of `count` where the segment is rendered. -/
def Asks (setting : Setting) (s : Segment) (count : Count) : Prop :=
  ∃ countKey categories entries v rules, s.plural? = some (countKey, categories) ∧
    setting.Counts countKey categories entries v count rules

/-- The setting with another classifier. -/
def classified (setting : Setting) (classifier : Plural.Classifier) : Setting :=
  { setting with classifier }

variable {setting : Setting} {classifier : Plural.Classifier} {countKey : Text}
  {categories : List (Value × Value) → Option Value}

/-- A choice is the same with any classifier that says the same of the count in the locale of the
setting. -/
theorem choice_classified
    (h : ∀ entries v count rules, setting.Counts countKey categories entries v count rules →
      classifier count setting.locale = setting.classifier count setting.locale) :
    (setting.classified classifier).choice countKey categories =
      setting.choice countKey categories := by
  have hcounts' {entries v count rules}
      (hcounts : setting.Counts countKey categories entries v count rules) :
      (setting.classified classifier).Counts countKey categories entries v count rules :=
    ⟨hcounts.keyed, hcounts.bound, hcounts.isCount, hcounts.isMap⟩
  obtain ⟨choice, notes, hchooses⟩ := setting.exists_chooses countKey categories
  rw [hchooses.choice_eq]
  refine Chooses.choice_eq ?_
  cases hchooses with
  | noMapping hargument => exact .noMapping hargument
  | missingData hargument hnone => exact .missingData hargument hnone
  | unusable hargument hlookup hfound hunusable =>
    exact .unusable hargument hlookup hfound hunusable
  | fault hcounts htag =>
    rw [← h _ _ _ _ hcounts] at htag ⊢
    exact .fault (hcounts' hcounts) htag
  | noTemplate hcounts htag htemplate =>
    rw [← h _ _ _ _ hcounts] at htag ⊢
    exact .noTemplate (hcounts' hcounts) htag htemplate
  | unwritable hcounts htag htemplate =>
    rw [← h _ _ _ _ hcounts] at htag ⊢
    exact .unwritable (hcounts' hcounts) htag htemplate
  | template hcounts htag htemplate =>
    rw [← h _ _ _ _ hcounts] at htag ⊢
    exact .template (hcounts' hcounts) htag htemplate

theorem choice?_classified {s : Segment} (h : ∀ count, setting.Asks s count →
      classifier count setting.locale = setting.classifier count setting.locale) :
    (setting.classified classifier).choice? s = setting.choice? s := by
  rw [choice?_eq_map_plural?, choice?_eq_map_plural?]
  cases hplural : s.plural? with
  | none => rfl
  | some plural =>
    refine congrArg some (choice_classified fun entries v count rules hcounts => h count ?_)
    exact ⟨_, _, entries, v, rules, hplural, hcounts⟩

end Setting

/-- What is no plural placeholder is rendered without the classifier. -/
theorem Rendering.renderSegment_classified {σ : Type} {setting : Setting} {s : Segment}
    (h : setting.choice? s = none) (classifier : Plural.Classifier)
    (nested : Text → Text → Rendering σ Text) :
    renderSegment (setting.classified classifier) nested s = renderSegment setting nested s := by
  cases s with
  | reference count rules => cases h
  | inline body plural => cases h
  | literal text => rfl
  | positional spec => rfl
  | named key spec => rfl
  | value key => rfl

namespace Visit

variable {setting : Setting} {v : Visit}

theorem agrees_classified {classifier : Plural.Classifier}
    (h : ∀ count, setting.Asks v.segment count →
      classifier count setting.locale = setting.classifier count setting.locale) :
    v.Agrees setting (setting.classified classifier) Template.parse :=
  agrees_of_same (Setting.choice?_classified h) fun hchoice nested =>
    Rendering.renderSegment_classified hchoice classifier nested

/-- A note of a visit is one on its placeholder or one of the classifier, which was asked in the
locale of the setting. -/
theorem explains_or_consulted {note : Note} (h : note ∈ v.notes setting) :
    (∃ source countKey categories, setting.Explains source countKey categories note) ∨
      ∃ count, note ∈ (setting.classifier count setting.locale).notes := by
  cases hplural : v.segment.plural? with
  | none =>
    rw [notes, Setting.choice?_eq_map_plural?, hplural] at h
    cases h
  | some plural =>
    obtain ⟨countKey, categories⟩ := plural
    have hconsulted := setting.consulted_choice countKey categories
    have hchoice := setting.choice?_of_plural? hplural
    rcases hmade : setting.choice countKey categories with ⟨choice, consulted⟩
    rw [hmade] at hconsulted hchoice
    simp only [notes, reason?, hchoice] at h
    rcases List.mem_append.mp h with hmem | hmem
    · rcases hconsulted with rfl | ⟨count, rfl⟩
      · cases hmem
      · exact .inr ⟨count, hmem⟩
    · cases choice with
      | unchanged reason =>
        cases List.mem_singleton.mp hmem
        exact .inl ⟨_, countKey, categories, Setting.explains_of_choice (congrArg Prod.fst hmade) _⟩
      | fault fault => cases hmem
      | template chosen => cases hmem

end Visit

/-- A call is the same with any classifier that says the same of the counts it is asked for on the
way, in the locale of the call. -/
theorem Template.filled_classified {setting : Setting} {t : Template}
    {classifier : Plural.Classifier}
    (h : ∀ v ∈ t.visits setting, ∀ count, setting.Asks v.segment count →
      classifier count setting.locale = setting.classifier count setting.locale) :
    t.filled (setting.classified classifier) = t.filled setting :=
  Template.answer_of_agrees rfl fun v hv => Visit.agrees_classified (h v hv)

namespace Engine

/-- A call on the engine is one in `locale`: it is given that locale, or it is given none and the
locale is the engine's. -/
inductive CallsIn (e : Engine) (locale : Text) : Option Text → Prop
  | given : locale ≠ [] → CallsIn e locale (some locale)
  | missing : e.settings.locale = locale → CallsIn e locale none
  | empty : e.settings.locale = locale → CallsIn e locale (some [])

theorem CallsIn.effectiveLocale_eq {e : Engine} {locale : Text} {requested : Option Text}
    (h : e.CallsIn locale requested) : effectiveLocale e.settings requested = locale := by
  cases h with
  | given hlocale =>
    obtain ⟨c, rest, rfl⟩ := List.exists_cons_of_ne_nil hlocale
    rfl
  | missing hlocale => exact hlocale
  | empty hlocale => exact hlocale

theorem CallsIn.callSetting_eq {e e' : Engine} {locale : Text} {requested requested' : Option Text}
    (h : e.CallsIn locale requested) (h' : e'.CallsIn locale requested')
    (hdepth : e'.settings.maxDepth = e.settings.maxDepth) (argument : Value) :
    e'.callSetting argument requested' =
      (e.callSetting argument requested).classified e'.classifier := by
  unfold callSetting setting Setting.classified
  rw [h.effectiveLocale_eq, h'.effectiveLocale_eq, hdepth]

/-- Only the locale of a call matters, and only in that locale does its classifier.  Two engines of
one depth answer alike, with the same notes, wherever their calls are in one locale and their
classifiers agree on the counts in that locale: whether the locale is given or is the engine's own,
whatever the engines remember, and however deep a placeholder stands that asks for a category.  A
note that is not on a placeholder is one that the classifier makes in that locale. -/
theorem format_of_locale {e e' : Engine} (he : e.Reachable) (he' : e'.Reachable)
    (hdepth : e'.settings.maxDepth = e.settings.maxDepth) {locale : Text}
    {requested requested' : Option Text} (hrequested : e.CallsIn locale requested)
    (hrequested' : e'.CallsIn locale requested')
    (hclassifier : ∀ count, e'.classifier count locale = e.classifier count locale)
    (argument : Value) :
    (∀ source,
      (e'.format source argument requested').1 = (e.format source argument requested).1) ∧
    (∀ t,
      (e'.formatTemplate t argument requested').1 = (e.formatTemplate t argument requested).1) ∧
    ∀ source, ∀ note ∈ (e.format source argument requested).1.notes,
      (∃ placeholder countKey categories,
        (e.callSetting argument requested).Explains placeholder countKey categories note) ∨
      ∃ count, note ∈ (e.classifier count locale).notes := by
  have hlocale : (e.callSetting argument requested).locale = locale :=
    hrequested.effectiveLocale_eq
  have hsetting := hrequested.callSetting_eq hrequested' hdepth argument
  have hfilled (t : Template) : t.filled (e'.callSetting argument requested') =
      t.filled (e.callSetting argument requested) := by
    rw [hsetting]
    refine Template.filled_classified fun _ _ count _ => ?_
    rw [hlocale]
    exact hclassifier count
  refine ⟨fun source => ?_, fun t => ?_, fun source note hnote => ?_⟩
  · cases hparse : Template.parse source with
    | error fault => rw [he.format_of_parse_error hparse, he'.format_of_parse_error hparse]
    | ok t => rw [he.format_of_parse hparse, he'.format_of_parse hparse, hfilled]
  · rw [he.formatTemplate_eq_filled, he'.formatTemplate_eq_filled, hfilled]
  · cases hparse : Template.parse source with
    | error fault =>
      rw [he.format_of_parse_error hparse] at hnote
      cases hnote
    | ok t =>
      rw [he.format_of_parse hparse, Template.notes_filled] at hnote
      obtain ⟨v, -, hmem⟩ := List.mem_flatMap.mp hnote
      rw [← hlocale]
      exact Visit.explains_or_consulted hmem

open Text (lit)

/-- An engine for a locale. -/
def localized (locale : Text) (classifier : Plural.Classifier) : Engine :=
  create ⟨locale, 2, 1, Nat.two_pos, Nat.one_pos⟩ classifier

set_option maxRecDepth 4000 in
/-- A placeholder in a template text that another one chose has its category in Polish too, be that
the locale of the call or of the engine. -/
theorem format_of_locale_nested :
    let e := localized (lit "en") .localeItself
    let e' := localized (lit "pl") (.constant (lit "pl"))
    let source := lit "%\x7bn:r\x7d"
    let argument : Value := .map [(.text (lit "n"), .int 1),
      (.text (lit "r"), .map [(.text (lit "pl"), .text (lit "%\x7bn:q\x7d!"))]),
      (.text (lit "q"), .map [(.text (lit "pl"), .text (lit "a")), (.text (lit "en"), .text [])])]
    e.Reachable ∧ e'.Reachable ∧ e'.settings.maxDepth = e.settings.maxDepth ∧
      e.CallsIn (lit "pl") (some (lit "pl")) ∧ e'.CallsIn (lit "pl") none ∧
      (∀ count, e'.classifier count (lit "pl") = e.classifier count (lit "pl")) ∧
      (e.format source argument (some (lit "pl"))).1 = ⟨.ok (lit "a!"), []⟩ ∧
      (e'.format source argument none).1 = ⟨.ok (lit "a!"), []⟩ := by
  intro e e' source argument
  have he : e.Reachable := .create _ _
  have he' : e'.Reachable := .create _ _
  have hrequested : e.CallsIn (lit "pl") (some (lit "pl")) := .given (by decide)
  have hrequested' : e'.CallsIn (lit "pl") none := .missing rfl
  have hanswer : (e.format source argument (some (lit "pl"))).1 = ⟨.ok (lit "a!"), []⟩ := by
    simp only [e, source, argument]
    cbv
  obtain ⟨hformat, -, -⟩ :=
    format_of_locale he he' rfl hrequested hrequested' (fun _ => rfl) argument
  exact ⟨he, he', rfl, hrequested, hrequested', fun _ => rfl, hanswer,
    (hformat source).trans hanswer⟩

end Engine

end Phrasebook
