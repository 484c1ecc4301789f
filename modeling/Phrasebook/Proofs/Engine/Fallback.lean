import Phrasebook.Proofs.Engine.Failure
import Phrasebook.Proofs.Engine.InlineRules
import Phrasebook.Proofs.Engine.Visit

/-! Plural placeholders that stay as they are written.  Such a placeholder is copied, and one note
says why; every other one gives way to a template text that is evaluated one level deeper.  The
notes of a call are in the order of the placeholders in its text. -/

namespace Phrasebook

/-! ### When a placeholder is resolved -/

/-- The values that are counts: integers and finite numbers, but no truth values. -/
inductive Value.CountsAs : Value → Count → Prop
  | int (n : Int) : CountsAs (.int n) (.int n)
  | float (negative : Bool) (mantissa : Nat) (exponent : Int) :
      CountsAs (.float (.finite negative mantissa exponent)) (.binary negative mantissa exponent)
  | decimal (negative : Bool) (coefficient : Nat) (exponent : Int) :
      CountsAs (.decimal (.finite negative coefficient exponent))
        (.decimal negative coefficient exponent)

theorem Value.count?_eq_some_iff {v : Value} {count : Count} :
    v.count? = some count ↔ v.CountsAs count := by
  constructor
  · intro h
    unfold count? at h
    split at h
    · cases h
      exact .int _
    · cases h
      exact .float _ _ _
    · cases h
      exact .decimal _ _ _
    · cases h
  · rintro (_ | _ | _) <;> rfl

/-- The key of the count of a plural placeholder, and the categories that entries lead to. -/
def Segment.plural? : Segment → Option (Text × (List (Value × Value) → Option Value))
  | .reference count rules => some (count, Value.lookup rules)
  | .inline _ plural => some (plural.countKey, fun _ => some plural.categoryMap)
  | _ => none

/-- The choice of a value for its text. -/
def Plural.Choice.showing (found : Value) : Plural.Choice :=
  match found.written with
  | .ok chosen => .template chosen
  | .error unwritten => .fault unwritten

namespace Setting

/-- The argument is a mapping that binds a count, the categories are a mapping, and they bind the
tag of the count to the value `found`. -/
def Resolves (setting : Setting) (countKey : Text)
    (categories : List (Value × Value) → Option Value) (found : Value) : Prop :=
  ∃ entries v count rules tag, setting.argument = .keyed entries ∧
    Value.lookup countKey entries = some v ∧ v.CountsAs count ∧
    categories entries = some (.map rules) ∧
    (setting.classifier count setting.locale).tag = .ok tag ∧
    Value.lookup tag rules = some found ∧ found ≠ .none

/-- The note on a placeholder that is not resolved: on the argument if it is no mapping, otherwise
on what is missing from it, and otherwise on the category. -/
inductive Explains (setting : Setting) (source countKey : Text)
    (categories : List (Value × Value) → Option Value) : Note → Prop
  | noMapping {values : List Value} : setting.argument = .positional values →
      Explains setting source countKey categories (.noMapping source)
  | missingData {entries : List (Value × Value)} : setting.argument = .keyed entries →
      Value.lookup countKey entries = none ∨ categories entries = none →
      Explains setting source countKey categories (.missingData source)
  | noCategory {entries : List (Value × Value)} {v found : Value} :
      setting.argument = .keyed entries → Value.lookup countKey entries = some v →
      categories entries = some found →
      Explains setting source countKey categories (.noCategory source v)

/-- Notes of the classifier on one count, or none if it is not asked. -/
def Consulted (setting : Setting) (notes : List Note) : Prop :=
  notes = [] ∨ ∃ count, notes = (setting.classifier count setting.locale).notes

variable {setting : Setting} {countKey : Text} {categories : List (Value × Value) → Option Value}

theorem Explains.level_eq {source : Text} {note : Note}
    (h : setting.Explains source countKey categories note) : note.level = .debug := by
  cases h <;> rfl

/-- The choice of a value is that of its text, or its fault if it has none. -/
theorem Resolves.choice_eq {found : Value} (h : setting.Resolves countKey categories found) :
    (setting.choice countKey categories).1 = .showing found := by
  obtain ⟨entries, v, count, rules, tag, hargument, hlookup, hcounts, hrules, htag, hfound,
    hne⟩ := h
  have hcount : setting.Counts countKey categories entries v count rules :=
    ⟨hargument, hlookup, Value.count?_eq_some_iff.mpr hcounts, hrules⟩
  have htemplate := Plural.templateFor_of_lookup hfound hne
  unfold Plural.Choice.showing
  cases hwritten : found.written with
  | ok chosen =>
    rw [hwritten] at htemplate
    exact congrArg Prod.fst (Chooses.choice_eq (.template hcount htag htemplate))
  | error fault =>
    rw [hwritten] at htemplate
    exact congrArg Prod.fst (Chooses.choice_eq (.unwritable hcount htag htemplate))

/-- A placeholder that stays as it is written has a note that explains it. -/
theorem explains_of_choice {reason : Text → Note}
    (h : (setting.choice countKey categories).1 = .unchanged reason) (source : Text) :
    setting.Explains source countKey categories (reason source) := by
  obtain ⟨choice, notes, hchooses⟩ := setting.exists_chooses countKey categories
  obtain rfl : choice = .unchanged reason := by rwa [hchooses.choice_eq] at h
  cases hchooses with
  | noMapping hargument => exact .noMapping hargument
  | missingData hargument hnone => exact .missingData hargument hnone
  | unusable hargument hlookup hfound => exact .noCategory hargument hlookup hfound
  | noTemplate hcounts => exact .noCategory hcounts.keyed hcounts.bound hcounts.isMap

theorem Counts.resolves {entries rules : List (Value × Value)} {v found : Value} {count : Count}
    {tag : Text} (h : setting.Counts countKey categories entries v count rules)
    (htag : (setting.classifier count setting.locale).tag = .ok tag)
    (hfound : Value.lookup tag rules = some found) (hne : found ≠ .none) :
    setting.Resolves countKey categories found :=
  ⟨entries, v, count, rules, tag, h.keyed, h.bound, Value.count?_eq_some_iff.mp h.isCount, h.isMap,
    htag, hfound, hne⟩

/-- Where the classifier gives a tag, a placeholder is resolved, or there is a note on it. -/
theorem resolves_or_explains (htag : ∀ fault, ¬setting.Lacks fault) (countKey : Text)
    (categories : List (Value × Value) → Option Value) :
    (∃ found, setting.Resolves countKey categories found) ∨
      ∃ reason, (setting.choice countKey categories).1 = .unchanged reason ∧
        ∀ source, setting.Explains source countKey categories (reason source) := by
  obtain ⟨choice, notes, hchooses⟩ := setting.exists_chooses countKey categories
  have hchoice : (setting.choice countKey categories).1 = choice :=
    congrArg Prod.fst hchooses.choice_eq
  have hunchanged (reason : Text → Note) (h : choice = .unchanged reason) :
      ∃ reason, (setting.choice countKey categories).1 = .unchanged reason ∧
        ∀ source, setting.Explains source countKey categories (reason source) :=
    ⟨reason, hchoice.trans h, explains_of_choice (hchoice.trans h)⟩
  cases hchooses with
  | noMapping => exact .inr (hunchanged _ rfl)
  | missingData => exact .inr (hunchanged _ rfl)
  | unusable => exact .inr (hunchanged _ rfl)
  | noTemplate => exact .inr (hunchanged _ rfl)
  | @fault entries rules v count fault hcounts hfault =>
    exact absurd ⟨entries, countKey, v, count, hcounts.keyed, hcounts.bound, hcounts.isCount,
      hfault⟩ (htag fault)
  | unwritable hcounts hruling htemplate =>
    obtain ⟨found, hfound, hne, -⟩ := Plural.exists_found htemplate (by simp)
    exact .inl ⟨found, hcounts.resolves hruling hfound hne⟩
  | template hcounts hruling htemplate =>
    obtain ⟨found, hfound, hne, -⟩ := Plural.exists_found htemplate (by simp)
    exact .inl ⟨found, hcounts.resolves hruling hfound hne⟩

theorem consulted_choice (setting : Setting) (countKey : Text)
    (categories : List (Value × Value) → Option Value) :
    setting.Consulted (setting.choice countKey categories).2 := by
  obtain ⟨choice, notes, hchooses⟩ := setting.exists_chooses countKey categories
  rw [hchooses.choice_eq]
  cases hchooses with
  | noMapping => exact .inl rfl
  | missingData => exact .inl rfl
  | unusable => exact .inl rfl
  | fault => exact .inr ⟨_, rfl⟩
  | noTemplate => exact .inr ⟨_, rfl⟩
  | unwritable => exact .inr ⟨_, rfl⟩
  | template => exact .inr ⟨_, rfl⟩

theorem choice?_eq_map_plural? (setting : Setting) (s : Segment) : setting.choice? s =
    s.plural?.map fun plural => setting.choice plural.1 plural.2 := by
  cases s <;> rfl

theorem choice?_of_plural? (setting : Setting) {s : Segment}
    (h : s.plural? = some (countKey, categories)) :
    setting.choice? s = some (setting.choice countKey categories) := by
  rw [choice?_eq_map_plural?, h, Option.map_some]

/-- The classifier makes no debug notes in the locale of the call. -/
def Quiet (setting : Setting) : Prop :=
  ∀ count, ∀ note ∈ (setting.classifier count setting.locale).notes, note.level ≠ .debug

/-- The plural rules only warn, and that of a locale that they do not know. -/
theorem quiet_of_byRules [Locale.Catalog]
    (h : setting.classifier = Plural.Classifier.byRules) : setting.Quiet := by
  intro count note hnote
  rw [h, Plural.Classifier.byRules] at hnote
  cases hfind : Locale.find setting.locale with
  | error fault =>
    rw [hfind] at hnote
    cases List.mem_singleton.mp hnote
    simp [Note.level]
  | ok found =>
    rw [hfind] at hnote
    cases hnote

theorem Consulted.filter_debug {notes : List Note} (h : setting.Consulted notes)
    (hquiet : setting.Quiet) : notes.filter (·.level = .debug) = [] := by
  rw [List.filter_eq_nil_iff]
  rcases h with rfl | ⟨count, rfl⟩
  · exact fun _ hmem => nomatch hmem
  · simpa using hquiet count

end Setting

/-! ### What a placeholder comes to -/

namespace Visit

variable {setting : Setting} {v : Visit} {countKey : Text}
  {categories : List (Value × Value) → Option Value}

/-- A template text that is evaluated one level deeper, or refused where there is no level to go. -/
def deeper (setting : Setting) (v : Visit) (chosen : Text) (p : Progress Unit) :
    Except SubstitutionError Text × Progress Unit :=
  match v.levels with
  | 0 => (.error (.tooDeep setting.limit v.segment.source), p)
  | levels + 1 =>
    match Template.parse chosen with
    | .error fault => (.error (.malformed fault), p)
    | .ok t => (Rendering.render Shelf.bare setting levels t).run.run p

/-- A value whose text is evaluated one level deeper; if it has none, that is a fault. -/
def evaluated (setting : Setting) (v : Visit) (found : Value) (p : Progress Unit) :
    Except SubstitutionError Text × Progress Unit :=
  match found.written with
  | .ok chosen => v.deeper setting chosen p
  | .error fault => (.error (.uncaught fault), p)

theorem run_below (v : Visit) (chosen : Text) (p : Progress Unit) :
    (Rendering.below Shelf.bare setting v.levels v.segment.source chosen).run.run p =
      v.deeper setting chosen p := by
  unfold deeper
  cases v.levels with
  | zero => rfl
  | succ levels =>
    rw [Rendering.below, Rendering.fetch_bare]
    cases Template.parse chosen <;> rfl

theorem run_follow_showing (v : Visit) (found : Value) (p : Progress Unit) :
    (Rendering.follow (Rendering.below Shelf.bare setting v.levels) v.segment.source
      (.showing found)).run.run p = v.evaluated setting found p := by
  unfold Plural.Choice.showing evaluated
  cases found.written with
  | error fault => rfl
  | ok chosen => exact run_below v chosen p

theorem result_of_resolves (hv : v.segment.plural? = some (countKey, categories)) {found : Value}
    (h : setting.Resolves countKey categories found) :
    v.reason? setting = none ∧ setting.Consulted (v.notes setting) ∧
      v.result setting = v.evaluated setting found
        { v.progress with notes := v.progress.notes ++ v.notes setting } := by
  have hconsulted := setting.consulted_choice countKey categories
  have hplural := setting.choice?_of_plural? hv
  rcases hchoice : setting.choice countKey categories with ⟨choice, notes⟩
  have hshowing := h.choice_eq
  rw [hchoice] at hplural hconsulted hshowing
  obtain rfl : choice = .showing found := hshowing
  have hreason : v.reason? setting = none := by
    rw [reason?, hplural, Plural.Choice.showing]
    cases found.written <;> rfl
  have hnotes : v.notes setting = notes := by
    rw [Visit.notes, hplural]
    simp only [hreason, Option.toList_none, List.append_nil]
  refine ⟨hreason, hnotes ▸ hconsulted, ?_⟩
  rw [result, Rendering.renderSegment_of_choice? setting _ hplural, Rendering.run_note_bind, hnotes]
  exact run_follow_showing v found _

theorem result_of_explained (hv : v.segment.plural? = some (countKey, categories))
    {reason : Text → Note} (h : (setting.choice countKey categories).1 = .unchanged reason) :
    v.reason? setting = some (reason v.segment.source) ∧ v.text setting = v.segment.source ∧
      (∃ consulted, setting.Consulted consulted ∧
        v.notes setting = consulted ++ [reason v.segment.source]) ∧
      v.result setting = (.ok v.segment.source,
        { v.progress with notes := v.progress.notes ++ v.notes setting }) := by
  have hconsulted := setting.consulted_choice countKey categories
  have hplural := setting.choice?_of_plural? hv
  rcases hchoice : setting.choice countKey categories with ⟨choice, notes⟩
  rw [hchoice] at hplural hconsulted h
  obtain rfl : choice = .unchanged reason := h
  have hreason : v.reason? setting = some (reason v.segment.source) := by rw [reason?, hplural]
  have hnotes : v.notes setting = notes ++ [reason v.segment.source] := by
    rw [Visit.notes, hplural]
    simp only [hreason, Option.toList_some]
  have hresult : v.result setting = (.ok v.segment.source,
      { v.progress with notes := v.progress.notes ++ v.notes setting }) := by
    rw [result, Rendering.renderSegment_of_choice? setting _ hplural, Rendering.run_note_bind,
      hnotes, ← List.append_assoc]
    rfl
  refine ⟨hreason, ?_, ⟨notes, hconsulted, hnotes⟩, hresult⟩
  rw [text, hplural, hresult]

/-- The debug notes of a visit are its note on a placeholder. -/
theorem filter_debug_notes (htag : ∀ fault, ¬setting.Lacks fault) (hquiet : setting.Quiet)
    (v : Visit) :
    (v.notes setting).filter (·.level = .debug) = (v.reason? setting).toList := by
  cases hplural : v.segment.plural? with
  | none =>
    have hchoice : setting.choice? v.segment = none := by
      rw [Setting.choice?_eq_map_plural?, hplural, Option.map_none]
    rw [Visit.notes, reason?, hchoice]
    rfl
  | some plural =>
    obtain ⟨countKey, categories⟩ := plural
    rcases Setting.resolves_or_explains htag countKey categories with
      ⟨found, hresolves⟩ | ⟨reason, hreason, hexplains⟩
    · obtain ⟨hnone, hconsulted, -⟩ := result_of_resolves hplural hresolves
      rw [hnone, hconsulted.filter_debug hquiet]
      rfl
    · obtain ⟨hsome, -, ⟨consulted, hconsulted, hnotes⟩, -⟩ := result_of_explained hplural hreason
      rw [hsome, hnotes, List.filter_append, hconsulted.filter_debug hquiet, List.nil_append,
        List.filter_singleton, (hexplains v.segment.source).level_eq]
      rfl

end Visit

namespace Engine

/-- A classifier that gives a tag leaves a plural placeholder with no third way.  If the argument,
the count and the categories resolve it, it comes to the text of the value that they bind, evaluated
one level deeper, and there is no note on it.  Otherwise it comes to its source, with one note that
says why.  A call makes the notes of its visits in the order in which they make its text; and if the
classifier makes no debug notes, those of the call are the notes on its placeholders. -/
theorem format_falls_back {e : Engine} (he : e.Reachable) {source : Text} {t : Template}
    (hparse : Template.parse source = .ok t) {argument : Value} {locale : Option Text}
    (htag : ∀ fault, ¬(e.callSetting argument locale).Lacks fault) :
    let setting := e.callSetting argument locale
    let answer := (e.format source argument locale).1
    (∀ v ∈ t.visits setting, ∀ countKey categories,
      v.segment.plural? = some (countKey, categories) →
      (∀ found, setting.Resolves countKey categories found →
        v.reason? setting = none ∧ setting.Consulted (v.notes setting) ∧
        v.result setting = v.evaluated setting found
          { v.progress with notes := v.progress.notes ++ v.notes setting }) ∧
      ((∀ found, ¬setting.Resolves countKey categories found) →
        ∃ note consulted, setting.Explains v.segment.source countKey categories note ∧
          note.level = .debug ∧ v.reason? setting = some note ∧
          v.text setting = v.segment.source ∧
          setting.Consulted consulted ∧ v.notes setting = consulted ++ [note] ∧
          v.result setting = (.ok v.segment.source,
            { v.progress with notes := v.progress.notes ++ v.notes setting }))) ∧
    (∀ text, answer.text = .ok text → text = (t.visits setting).flatMap (Visit.text setting)) ∧
    answer.notes = (t.visits setting).flatMap (Visit.notes setting) ∧
    (setting.Quiet → answer.notes.filter (·.level = .debug) =
      (t.visits setting).filterMap (Visit.reason? setting)) := by
  intro setting answer
  have hfilled : answer = t.filled setting := he.format_of_parse hparse argument locale
  rw [hfilled]
  refine ⟨fun v _ countKey categories hplural => ⟨fun found hresolves => ?_, fun hnone => ?_⟩,
    fun text => Template.text_filled, Template.notes_filled, fun hquiet => ?_⟩
  · exact Visit.result_of_resolves hplural hresolves
  · rcases Setting.resolves_or_explains htag countKey categories with
      ⟨found, hresolves⟩ | ⟨reason, hreason, hexplains⟩
    · exact absurd hresolves (hnone found)
    · have hexplained := hexplains v.segment.source
      obtain ⟨hsome, htext, ⟨consulted, hconsulted, hnotes⟩, hresult⟩ :=
        Visit.result_of_explained hplural hreason
      exact ⟨_, consulted, hexplained, hexplained.level_eq, hsome, htext, hconsulted, hnotes,
        hresult⟩
  · rw [Template.notes_filled, List.filter_flatMap, List.filterMap_eq_flatMap_toList]
    exact List.flatMap_congr fun v _ => Visit.filter_debug_notes htag hquiet v

open Text (lit)

set_option maxRecDepth 4000 in
/-- A placeholder that is resolved by a template text with one that is not, before another one that
is not: the note from the depth comes first. -/
theorem format_falls_back_nested :
    let source := lit "%\x7bn:r\x7d%\x7bm:r\x7d"
    let entries : List (Value × Value) := [(.text (lit "n"), .int 1),
      (.text (lit "r"), .map [(.text (lit "one"), .text (lit "%\x7bx:r\x7d!"))])]
    let t : Template := ⟨source, [.reference (lit "n") (lit "r"), .reference (lit "m") (lit "r")]⟩
    singular.Reachable ∧ Template.parse source = .ok t ∧
      (∀ fault, ¬(singular.callSetting (.map entries) none).Lacks fault) ∧
      (singular.format source (.map entries) none).1.notes.filter (·.level = .debug) =
        [.missingData (lit "%\x7bx:r\x7d"), .missingData (lit "%\x7bm:r\x7d")] := by
  intro source entries t
  have hreachable : singular.Reachable := .create _ _
  have hparse : Template.parse source = .ok t := by
    simp only [source, t]
    cbv
  have htag : ∀ fault, ¬(singular.callSetting (.map entries) none).Lacks fault := by
    rintro fault ⟨_, _, _, _, _, _, _, htag⟩
    cases htag
  have hquiet : (singular.callSetting (.map entries) none).Quiet := by
    intro count note hnote
    cases hnote
  obtain ⟨-, -, -, hdebug⟩ := format_falls_back hreachable hparse htag
  refine ⟨hreachable, hparse, htag, (hdebug hquiet).trans ?_⟩
  simp only [t, source, entries]
  cbv

end Engine

end Phrasebook
