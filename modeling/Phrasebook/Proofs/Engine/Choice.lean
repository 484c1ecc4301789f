import Phrasebook.Proofs.Conversion.Sprintf
import Phrasebook.Proofs.Engine.Memory

/-! What plural placeholders choose.  A choice is settled by the argument, the locale and the
classifier; only then does it matter how the template text that was chosen is rendered.  All other
segments are rendered from what is at hand. -/

namespace Phrasebook

namespace Value

variable {key : Text} {v : Value} {entries : List (Value × Value)}

theorem lookup_cons_self (key : Text) (v : Value) (entries : List (Value × Value)) :
    lookup key ((.text key, v) :: entries) = some v := if_pos rfl

theorem lookup_cons_of_ne {entry : Value × Value} (h : entry.1 ≠ .text key) :
    lookup key (entry :: entries) = lookup key entries := by
  obtain ⟨k, v⟩ := entry
  cases k with
  | text k => exact if_neg fun hk => h (congrArg Value.text hk)
  | _ => rfl

theorem mem_of_lookup (h : lookup key entries = some v) : (.text key, v) ∈ entries := by
  induction entries with
  | nil => cases h
  | cons entry entries ih =>
    by_cases hkey : entry.1 = .text key
    · obtain ⟨k, v'⟩ := entry
      obtain rfl : k = .text key := hkey
      rw [lookup_cons_self] at h
      cases h
      exact List.mem_cons_self
    · rw [lookup_cons_of_ne hkey] at h
      exact List.mem_cons_of_mem _ (ih h)

end Value

/-- What becomes of a plural placeholder: it stays as it is written, with a note on its source;
there is a fault, of its count or of the template that is to be shown; or a template text takes its
place. -/
inductive Plural.Choice where
  | unchanged (reason : Text → Note)
  | fault (fault : Uncaught)
  | template (chosen : Text)

namespace Plural

variable {rules : List (Value × Value)} {tag : Text}

theorem templateFor_of_lookup {found : Value} (hlookup : Value.lookup tag rules = some found)
    (hne : found ≠ .none) : templateFor rules tag = found.written.map some := by
  unfold templateFor
  rw [hlookup]
  split
  · next h => cases h
  · next h => exact absurd (Option.some.inj h) hne
  · next h => rw [Option.some.inj h]

/-- Whatever else than no template is found for a tag comes from a value that is bound to it. -/
theorem exists_found {selected : Except Uncaught (Option Text)}
    (h : templateFor rules tag = selected) (hne : selected ≠ .ok none) :
    ∃ found, Value.lookup tag rules = some found ∧ found ≠ .none ∧
      found.written.map some = selected := by
  unfold templateFor at h
  split at h
  · exact absurd h.symm hne
  · exact absurd h.symm hne
  · next found hfound hlookup => exact ⟨found, hlookup, fun hnone => hfound hnone, h⟩

theorem templateFor_eq_some_iff {chosen : Text} : templateFor rules tag = .ok (some chosen) ↔
    ∃ found, Value.lookup tag rules = some found ∧ found ≠ .none ∧ found.shown? = some chosen := by
  constructor
  · intro h
    obtain ⟨found, hlookup, hne, hwritten⟩ := exists_found h (by simp)
    refine ⟨found, hlookup, hne, ?_⟩
    unfold Value.written at hwritten
    split at hwritten
    · next hshown =>
      cases hwritten
      exact hshown
    · cases hwritten
  · rintro ⟨found, hlookup, hne, hshown⟩
    rw [templateFor_of_lookup hlookup hne, Value.written, hshown]
    rfl

/-- The only fault is a value that cannot be shown. -/
theorem templateFor_eq_error_iff {fault : Uncaught} : templateFor rules tag = .error fault ↔
    fault = .unwritable ∧ ∃ found, Value.lookup tag rules = some found ∧ found.shown? = none := by
  constructor
  · intro h
    obtain ⟨found, hlookup, -, hwritten⟩ := exists_found h (by simp)
    unfold Value.written at hwritten
    split at hwritten
    · cases hwritten
    · next hshown =>
      cases hwritten
      exact ⟨rfl, found, hlookup, hshown⟩
  · rintro ⟨rfl, found, hlookup, hshown⟩
    have hne : found ≠ .none := by
      rintro rfl
      cases hshown
    rw [templateFor_of_lookup hlookup hne, Value.written, hshown]
    rfl

end Plural

/-- The shelf that remembers nothing and takes its templates from `parse`. -/
def Shelf.parsing (parse : Text → Except InlinePlural.Malformed Template) : Shelf Unit :=
  fun source memory => (parse source, memory)

/-- Whether a failure is neither the refusal of a plural placeholder nor a fault of the plural
rules. -/
def SubstitutionError.IsPlain : SubstitutionError → Prop
  | .tooDeep _ _ => False
  | .uncaught (.plural _) => False
  | _ => True

theorem Conversion.isPlain_of_sprintf {spec : Conversion} {v : Value} {e : SubstitutionError}
    (h : spec.sprintf v = .error e) : e.IsPlain := by
  obtain ⟨fault, -, ⟨quoted, -, rfl⟩ | ⟨-, rfl⟩⟩ := sprintf_eq_error_iff.mp h
  · trivial
  · trivial

namespace Setting

/-- The choice for the count under a key from the categories that the argument leads to, and the
notes made on the way. -/
def choice (setting : Setting) (countKey : Text)
    (categories : List (Value × Value) → Option Value) : Plural.Choice × List Note :=
  match setting.argument with
  | .positional _ => (.unchanged .noMapping, [])
  | .keyed entries =>
    match Value.lookup countKey entries, categories entries with
    | some count, some categories =>
      let (selected, notes) :=
        Plural.resolve setting.classifier count setting.locale categories
      match selected with
      | .error fault => (.fault fault, notes)
      | .ok none => (.unchanged fun source => .noCategory source count, notes)
      | .ok (some chosen) => (.template chosen, notes)
    | _, _ => (.unchanged .missingData, [])

/-- The argument binds a count under the key, and there are rules for it. -/
structure Counts (setting : Setting) (countKey : Text)
    (categories : List (Value × Value) → Option Value) (entries : List (Value × Value)) (v : Value)
    (count : Count) (rules : List (Value × Value)) : Prop where
  keyed : setting.argument = .keyed entries
  bound : Value.lookup countKey entries = some v
  isCount : v.count? = some count
  isMap : categories entries = some (.map rules)

/-- Everything that a choice can be, with the notes made on the way. -/
inductive Chooses (setting : Setting) (countKey : Text)
    (categories : List (Value × Value) → Option Value) : Plural.Choice → List Note → Prop
  | noMapping {values : List Value} : setting.argument = .positional values →
      Chooses setting countKey categories (.unchanged .noMapping) []
  | missingData {entries : List (Value × Value)} : setting.argument = .keyed entries →
      Value.lookup countKey entries = none ∨ categories entries = none →
      Chooses setting countKey categories (.unchanged .missingData) []
  | unusable {entries : List (Value × Value)} {v found : Value} :
      setting.argument = .keyed entries → Value.lookup countKey entries = some v →
      categories entries = some found →
      (∀ count rules, v.count? = some count → found ≠ .map rules) →
      Chooses setting countKey categories (.unchanged fun source => .noCategory source v) []
  | fault {entries rules : List (Value × Value)} {v : Value} {count : Count}
      {fault : Plural.Fault} : setting.Counts countKey categories entries v count rules →
      (setting.classifier count setting.locale).tag = .error fault →
      Chooses setting countKey categories (.fault (.plural fault))
        (setting.classifier count setting.locale).notes
  | noTemplate {entries rules : List (Value × Value)} {v : Value} {count : Count} {tag : Text} :
      setting.Counts countKey categories entries v count rules →
      (setting.classifier count setting.locale).tag = .ok tag →
      Plural.templateFor rules tag = .ok none →
      Chooses setting countKey categories (.unchanged fun source => .noCategory source v)
        (setting.classifier count setting.locale).notes
  | unwritable {entries rules : List (Value × Value)} {v : Value} {count : Count} {tag : Text}
      {fault : Uncaught} : setting.Counts countKey categories entries v count rules →
      (setting.classifier count setting.locale).tag = .ok tag →
      Plural.templateFor rules tag = .error fault →
      Chooses setting countKey categories (.fault fault)
        (setting.classifier count setting.locale).notes
  | template {entries rules : List (Value × Value)} {v : Value} {count : Count}
      {tag chosen : Text} : setting.Counts countKey categories entries v count rules →
      (setting.classifier count setting.locale).tag = .ok tag →
      Plural.templateFor rules tag = .ok (some chosen) →
      Chooses setting countKey categories (.template chosen)
        (setting.classifier count setting.locale).notes

section

variable {setting : Setting} {countKey : Text} {categories : List (Value × Value) → Option Value}
  {choice : Plural.Choice} {notes : List Note}

/-- With a count and rules the choice is that of the category that the classifier names. -/
theorem Counts.choice_eq {entries rules : List (Value × Value)} {v : Value} {count : Count}
    (h : setting.Counts countKey categories entries v count rules) :
    setting.choice countKey categories =
      (match (setting.classifier count setting.locale).tag with
        | .error fault => .fault (.plural fault)
        | .ok tag =>
          match Plural.templateFor rules tag with
          | .error fault => .fault fault
          | .ok none => .unchanged fun source => .noCategory source v
          | .ok (some chosen) => .template chosen,
        (setting.classifier count setting.locale).notes) := by
  have hresolve : Plural.resolve setting.classifier v setting.locale (.map rules) =
      (match (setting.classifier count setting.locale).tag with
        | .error fault => .error (.plural fault)
        | .ok tag => Plural.templateFor rules tag,
        (setting.classifier count setting.locale).notes) := by
    simp only [Plural.resolve, h.isCount]
    cases (setting.classifier count setting.locale).tag <;> rfl
  simp only [Setting.choice, h.keyed, h.bound, h.isMap, hresolve]
  cases (setting.classifier count setting.locale).tag with
  | error fault => rfl
  | ok tag =>
    dsimp only
    rcases Plural.templateFor rules tag with fault | _ | chosen <;> rfl

theorem Chooses.choice_eq (h : setting.Chooses countKey categories choice notes) :
    setting.choice countKey categories = (choice, notes) := by
  cases h with
  | noMapping hargument => simp only [Setting.choice, hargument]
  | @missingData entries hargument hnone =>
    simp only [Setting.choice, hargument]
    rcases hnone with hnone | hnone
    · simp only [hnone]
    · cases Value.lookup countKey entries <;> simp only [hnone]
  | @unusable entries v found hargument hlookup hfound hunusable =>
    have hresolve : Plural.resolve setting.classifier v setting.locale found = (.ok none, []) := by
      unfold Plural.resolve
      split
      · next count rules hcount => exact absurd rfl (hunusable count rules hcount)
      · rfl
    simp only [Setting.choice, hargument, hlookup, hfound, hresolve]
  | fault h htag => rw [h.choice_eq, htag]
  | noTemplate h htag htemplate => simp only [h.choice_eq, htag, htemplate]
  | unwritable h htag htemplate => simp only [h.choice_eq, htag, htemplate]
  | template h htag htemplate => simp only [h.choice_eq, htag, htemplate]

theorem exists_chooses (setting : Setting) (countKey : Text)
    (categories : List (Value × Value) → Option Value) :
    ∃ choice notes, setting.Chooses countKey categories choice notes := by
  cases hargument : setting.argument with
  | positional values => exact ⟨_, _, .noMapping hargument⟩
  | keyed entries =>
    cases hlookup : Value.lookup countKey entries with
    | none => exact ⟨_, _, .missingData hargument (.inl hlookup)⟩
    | some v =>
      cases hfound : categories entries with
      | none => exact ⟨_, _, .missingData hargument (.inr hfound)⟩
      | some found =>
        by_cases husable : ∃ count rules, v.count? = some count ∧ found = .map rules
        · obtain ⟨count, rules, hcount, rfl⟩ := husable
          have hcounts : setting.Counts countKey categories entries v count rules :=
            ⟨hargument, hlookup, hcount, hfound⟩
          cases htag : (setting.classifier count setting.locale).tag with
          | error fault => exact ⟨_, _, .fault hcounts htag⟩
          | ok tag =>
            match htemplate : Plural.templateFor rules tag with
            | .ok none => exact ⟨_, _, .noTemplate hcounts htag htemplate⟩
            | .error fault => exact ⟨_, _, .unwritable hcounts htag htemplate⟩
            | .ok (some chosen) => exact ⟨_, _, .template hcounts htag htemplate⟩
        · exact ⟨_, _, .unusable hargument hlookup hfound fun count rules hcount heq =>
            husable ⟨count, rules, hcount, heq⟩⟩

/-- Without a count or without rules for it, a placeholder stays as it is. -/
theorem exists_unchanged
    (h : ∀ entries v count rules, ¬setting.Counts countKey categories entries v count rules) :
    ∃ reason notes, setting.choice countKey categories = (.unchanged reason, notes) := by
  obtain ⟨choice, notes, hchooses⟩ := setting.exists_chooses countKey categories
  rw [hchooses.choice_eq]
  cases hchooses with
  | noMapping => exact ⟨_, _, rfl⟩
  | missingData => exact ⟨_, _, rfl⟩
  | unusable => exact ⟨_, _, rfl⟩
  | fault hcounts => exact absurd hcounts (h _ _ _ _)
  | noTemplate hcounts => exact absurd hcounts (h _ _ _ _)
  | unwritable hcounts => exact absurd hcounts (h _ _ _ _)
  | template hcounts => exact absurd hcounts (h _ _ _ _)

/-- A template text that is chosen is that of the rules for a tag. -/
theorem exists_counts_of_template {chosen : Text}
    (h : (setting.choice countKey categories).1 = .template chosen) :
    ∃ entries v count rules tag, setting.Counts countKey categories entries v count rules ∧
      (setting.classifier count setting.locale).tag = .ok tag ∧
      Plural.templateFor rules tag = .ok (some chosen) := by
  obtain ⟨choice, notes, hchooses⟩ := setting.exists_chooses countKey categories
  obtain rfl : choice = .template chosen := by rwa [hchooses.choice_eq] at h
  cases hchooses with
  | template hcounts htag htemplate => exact ⟨_, _, _, _, _, hcounts, htag, htemplate⟩

end

/-- The choice of a segment that is a plural placeholder. -/
def choice? (setting : Setting) : Segment → Option (Plural.Choice × List Note)
  | .reference count rules => some (setting.choice count (Value.lookup rules))
  | .inline _ plural => some (setting.choice plural.countKey fun _ => some plural.categoryMap)
  | _ => none

/-- The template text that a segment is replaced with. -/
def chosen? (setting : Setting) (s : Segment) : Option Text :=
  match setting.choice? s with
  | some (.template chosen, _) => some chosen
  | _ => none

theorem chosen?_eq_some_iff {setting : Setting} {s : Segment} {chosen : Text} :
    setting.chosen? s = some chosen ↔
      ∃ notes, setting.choice? s = some (.template chosen, notes) := by
  unfold chosen?
  constructor
  · intro h
    split at h
    · next found notes hchoice =>
      cases h
      exact ⟨notes, hchoice⟩
    · cases h
  · rintro ⟨notes, hchoice⟩
    rw [hchoice]

end Setting

namespace Rendering

variable {σ : Type}

theorem fetch_parsing (parse : Text → Except InlinePlural.Malformed Template) (source : Text) :
    fetch (Shelf.parsing parse) source =
      match parse source with
      | .ok t => pure t
      | .error e => throw (.malformed e) := by
  refine ExceptT.ext (StateT.ext fun p => ?_)
  unfold fetch Shelf.parsing
  cases parse source <;> rfl

theorem fetch_bare (source : Text) : fetch Shelf.bare source =
    match Template.parse source with
    | .ok t => pure t
    | .error e => throw (.malformed e) := fetch_parsing Template.parse source

/-- What takes the place of the placeholder `source` that chose a template text, with `levels` to
go. -/
def below (shelf : Shelf σ) (setting : Setting) : Nat → Text → Text → Rendering σ Text
  | 0, source, _ => throw (.tooDeep setting.limit source)
  | levels + 1, _, chosen => do render shelf setting levels (← fetch shelf chosen)

theorem render_eq_below (shelf : Shelf σ) (setting : Setting) (levels : Nat) (t : Template) :
    render shelf setting levels t =
      renderSegments setting (below shelf setting levels) t.segments := by
  cases levels <;> rfl

/-- What a step comes to at the start of a call. -/
def outcome {α : Type} (step : Rendering Unit α) : Except SubstitutionError α :=
  (step.run.run ⟨(), [], 0⟩).1

/-- What a choice puts in the place of the placeholder `source`. -/
def follow (nested : Text → Text → Rendering σ Text) (source : Text) :
    Plural.Choice → Rendering σ Text
  | .unchanged reason => leave source (reason source)
  | .fault fault => throw (.uncaught fault)
  | .template chosen => nested source chosen

theorem run_note_bind (notes : List Note) (step : Rendering σ Text) (p : Progress σ) :
    (note notes >>= fun _ => step).run.run p =
      step.run.run { p with notes := p.notes ++ notes } := by
  rw [run_bind]
  rfl

theorem note_nil_bind (step : Rendering σ Text) : (note [] >>= fun _ => step) = step := by
  refine ExceptT.ext (StateT.ext fun p => ?_)
  show (note [] >>= fun _ => step).run.run p = step.run.run p
  rw [run_note_bind, List.append_nil]

section

variable (setting : Setting) (nested : Text → Text → Rendering σ Text)

theorem renderPlural_eq_follow (source countKey : Text)
    (categories : List (Value × Value) → Option Value) :
    renderPlural setting nested source countKey categories =
      note (setting.choice countKey categories).2 >>= fun _ =>
        follow nested source (setting.choice countKey categories).1 := by
  unfold renderPlural Setting.choice
  cases setting.argument with
  | positional values => exact (note_nil_bind _).symm
  | keyed entries =>
    simp only
    cases Value.lookup countKey entries with
    | none => exact (note_nil_bind _).symm
    | some count =>
      cases categories entries with
      | none => exact (note_nil_bind _).symm
      | some categories =>
        simp only
        rcases Plural.resolve setting.classifier count setting.locale categories with
          ⟨fault | selected, notes⟩
        · rfl
        · cases selected <;> rfl

/-- A plural placeholder makes the notes of its choice and follows it. -/
theorem renderSegment_of_choice? {s : Segment} {choice : Plural.Choice × List Note}
    (h : setting.choice? s = some choice) : renderSegment setting nested s =
      note choice.2 >>= fun _ => follow nested s.source choice.1 := by
  cases s with
  | reference count rules =>
    obtain rfl := Option.some.inj h
    exact renderPlural_eq_follow setting nested _ count _
  | inline body plural =>
    obtain rfl := Option.some.inj h
    exact renderPlural_eq_follow setting nested _ plural.countKey _
  | literal text => cases h
  | positional spec => cases h
  | named key spec => cases h
  | value key => cases h

/-- The other segments render no templates. -/
theorem renderSegment_of_choice?_eq_none {s : Segment} (h : setting.choice? s = none)
    (nested' : Text → Text → Rendering σ Text) :
    renderSegment setting nested s = renderSegment setting nested' s := by
  cases s with
  | reference count rules => cases h
  | inline body plural => cases h
  | literal text => rfl
  | positional spec => rfl
  | named key spec => rfl
  | value key => rfl

variable {setting nested}

theorem run_renderSegments_cons_eq_ok_iff {s : Segment} {segments : List Segment}
    {p q : Progress σ} {text : Text} :
    (renderSegments setting nested (s :: segments)).run.run p = (.ok text, q) ↔
      ∃ first p' rest, (renderSegment setting nested s).run.run p = (.ok first, p') ∧
        (renderSegments setting nested segments).run.run p' = (.ok rest, q) ∧
        text = first ++ rest := by
  rw [renderSegments, run_bind_eq_ok_iff]
  constructor
  · rintro ⟨first, p', hfirst, h⟩
    obtain ⟨rest, q', hrest, hpure⟩ := run_bind_eq_ok_iff.mp h
    cases hpure
    exact ⟨first, p', rest, hfirst, hrest, rfl⟩
  · rintro ⟨first, p', rest, hfirst, hrest, rfl⟩
    exact ⟨first, p', hfirst, run_bind_eq_ok_iff.mpr ⟨rest, q, hrest, rfl⟩⟩

/-- Segments are rendered from left to right until one fails. -/
theorem run_renderSegments_cons_eq_error_iff {s : Segment} {segments : List Segment}
    {p q : Progress σ} {e : SubstitutionError} :
    (renderSegments setting nested (s :: segments)).run.run p = (.error e, q) ↔
      (renderSegment setting nested s).run.run p = (.error e, q) ∨
        ∃ first p', (renderSegment setting nested s).run.run p = (.ok first, p') ∧
          (renderSegments setting nested segments).run.run p' = (.error e, q) := by
  rw [renderSegments, run_bind_eq_error_iff]
  constructor
  · rintro (hfirst | ⟨first, p', hfirst, h⟩)
    · exact .inl hfirst
    · rcases run_bind_eq_error_iff.mp h with hrest | ⟨rest, q', -, hpure⟩
      · exact .inr ⟨first, p', hfirst, hrest⟩
      · cases hpure
  · rintro (hfirst | ⟨first, p', hfirst, hrest⟩)
    · exact .inl hfirst
    · exact .inr ⟨first, p', hfirst, run_bind_eq_error_iff.mpr (.inl hrest)⟩

end

/-- A property of values, of plain failures, and of all steps that are made of steps with the
property. -/
structure Composes (P : (α : Type) → Rendering σ α → Prop) : Prop where
  pure : ∀ {α : Type} (a : α), P α (pure a)
  throw : ∀ {α : Type} {e : SubstitutionError}, e.IsPlain → P α (throw e)
  bind : ∀ {α β : Type} {step : Rendering σ α} {next : α → Rendering σ β}, P α step →
    (∀ a, P β (next a)) → P β (step >>= next)

namespace Composes

variable {P : (α : Type) → Rendering σ α → Prop}

theorem convert (h : Composes P) (spec : Conversion) (v : Value) :
    P Text (Rendering.convert spec v) := by
  unfold Rendering.convert
  split
  · next text _ => exact h.pure text
  · next hfault => exact h.throw (Conversion.isPlain_of_sprintf hfault)

theorem display (h : Composes P) (v : Value) : P Text (Rendering.display v) := by
  unfold Rendering.display
  split
  · next text _ => exact h.pure text
  · next fault hfault =>
    obtain ⟨-, rfl⟩ := Value.written_eq_error_iff.mp hfault
    exact h.throw trivial

theorem require (h : Composes P) (argument : Argument) (key source : Text) :
    P Value (Rendering.require argument key source) := by
  unfold Rendering.require
  cases argument with
  | positional values => exact h.throw trivial
  | keyed entries =>
    simp only
    cases Value.lookup key entries with
    | none => exact h.throw trivial
    | some v => exact h.pure v

theorem renderPositional (h : Composes P) {argument : Argument}
    (hnext : ∀ values, argument = .positional values → P (Option Value) (nextValue values))
    (spec : Conversion) (source : Text) :
    P Text (Rendering.renderPositional argument spec source) := by
  unfold Rendering.renderPositional
  cases argument with
  | keyed entries => exact h.throw trivial
  | positional values =>
    refine h.bind (hnext values rfl) fun v => ?_
    cases v with
    | none => exact h.throw trivial
    | some v => exact h.convert spec v

/-- The segments that are no plural placeholders have the property. -/
theorem renderSegment (h : Composes P) {setting : Setting}
    (hnext : ∀ values, setting.argument = .positional values → P (Option Value) (nextValue values))
    {s : Segment} (hs : setting.choice? s = none) (nested : Text → Text → Rendering σ Text) :
    P Text (Rendering.renderSegment setting nested s) := by
  cases s with
  | literal text => exact h.pure text
  | positional spec => exact h.renderPositional hnext spec _
  | named key spec => exact h.bind (h.require _ key _) fun v => h.convert _ v
  | value key => exact h.bind (h.require _ key _) fun v => h.display v
  | reference count rules => cases hs
  | inline body plural => cases hs

end Composes

/-- The step fails only in ways that are allowed. -/
def FailsWith {α : Type} (allowed : SubstitutionError → Prop) (step : Rendering σ α) : Prop :=
  ∀ p q e, step.run.run p = (.error e, q) → allowed e

namespace FailsWith

variable {α β : Type} {allowed : SubstitutionError → Prop}

theorem pure (a : α) : FailsWith allowed (Pure.pure a : Rendering σ α) := fun _ _ _ h => nomatch h

theorem throw {e : SubstitutionError} (he : allowed e) :
    FailsWith allowed (MonadExcept.throw e : Rendering σ α) := by
  intro p q e' h
  cases h
  exact he

/-- What follows a step need only be looked at for what the step can come to. -/
theorem bind_of_run {step : Rendering σ α} {next : α → Rendering σ β} (h : FailsWith allowed step)
    (hnext : ∀ a p q, step.run.run p = (.ok a, q) → FailsWith allowed (next a)) :
    FailsWith allowed (step >>= next) := by
  intro p q e hrun
  rcases run_bind_eq_error_iff.mp hrun with hstep | ⟨a, p', hstep, hrun⟩
  · exact h p q e hstep
  · exact hnext a p p' hstep p' q e hrun

theorem bind {step : Rendering σ α} {next : α → Rendering σ β} (h : FailsWith allowed step)
    (hnext : ∀ a, FailsWith allowed (next a)) : FailsWith allowed (step >>= next) :=
  h.bind_of_run fun a _ _ _ => hnext a

theorem composes : Composes fun α => (FailsWith SubstitutionError.IsPlain : Rendering σ α → Prop) :=
  ⟨pure, throw, bind⟩

/-- A segment that is no plural placeholder fails without the help of one. -/
theorem renderSegment {setting : Setting} {s : Segment} (h : setting.choice? s = none)
    (nested : Text → Text → Rendering σ Text) :
    FailsWith SubstitutionError.IsPlain (Rendering.renderSegment setting nested s) :=
  composes.renderSegment (fun _ _ _ _ _ hrun => nomatch hrun) h nested

end FailsWith

end Rendering

theorem Template.text_filled_eq_outcome (setting : Setting) (t : Template) :
    (t.filled setting).text = Rendering.outcome (Rendering.renderSegments setting
      (Rendering.below Shelf.bare setting setting.limit) t.segments) :=
  congrArg Rendering.outcome (Rendering.render_eq_below Shelf.bare setting setting.limit t)

end Phrasebook
