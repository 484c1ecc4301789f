import Phrasebook.Engine.Basic

/-! Renderings on two shelves.  Where two shelves give the same templates from memories that stay
related, two renderings give the same text and make the same notes.  A cache that holds for each
text what the text parses to is one such memory, and no memory at all is another. -/

namespace Phrasebook

/-- From related memories, both shelves give the same template of every text, and they leave
related memories. -/
def Shelf.Agree {σ τ : Type} (R : σ → τ → Prop) (shelf : Shelf σ) (shelf' : Shelf τ) : Prop :=
  ∀ source m n, R m n →
    (shelf source m).1 = (shelf' source n).1 ∧ R (shelf source m).2 (shelf' source n).2

namespace Rendering

variable {σ τ α β : Type} {R : σ → τ → Prop}

/-- Two calls have come equally far, with memories that are related. -/
structure Alike (R : σ → τ → Prop) (p : Progress σ) (q : Progress τ) : Prop where
  memory : R p.memory q.memory
  notes : p.notes = q.notes
  used : p.used = q.used

/-- From calls that have come equally far, both steps give the same result and lead to calls that
have come equally far. -/
def InStep (R : σ → τ → Prop) (step : Rendering σ α) (step' : Rendering τ α) : Prop :=
  ∀ p q, Alike R p q →
    (step.run.run p).1 = (step'.run.run q).1 ∧ Alike R (step.run.run p).2 (step'.run.run q).2

/-- A step after another runs from where that one ended, unless that one failed. -/
theorem run_bind (step : Rendering σ α) (next : α → Rendering σ β) (p : Progress σ) :
    (step >>= next).run.run p = match step.run.run p with
      | (.ok a, p') => (next a).run.run p'
      | (.error e, p') => (.error e, p') := by
  rw [ExceptT.run_bind, StateT.run_bind]
  rcases step.run.run p with ⟨_ | a, p'⟩ <;> rfl

theorem run_bind_eq_ok_iff {step : Rendering σ α} {next : α → Rendering σ β} {p q : Progress σ}
    {b : β} : (step >>= next).run.run p = (.ok b, q) ↔
      ∃ a p', step.run.run p = (.ok a, p') ∧ (next a).run.run p' = (.ok b, q) := by
  rw [run_bind]
  rcases step.run.run p with ⟨e | a, p'⟩
  · constructor
    · intro h
      cases h
    · rintro ⟨a, q', hstep, -⟩
      cases hstep
  · constructor
    · exact fun h => ⟨a, p', rfl, h⟩
    · rintro ⟨a, q', hstep, h⟩
      cases hstep
      exact h

theorem run_bind_eq_error_iff {step : Rendering σ α} {next : α → Rendering σ β}
    {p q : Progress σ} {e : SubstitutionError} : (step >>= next).run.run p = (.error e, q) ↔
      step.run.run p = (.error e, q) ∨
        ∃ a p', step.run.run p = (.ok a, p') ∧ (next a).run.run p' = (.error e, q) := by
  rw [run_bind]
  rcases step.run.run p with ⟨e' | a, p'⟩
  · constructor
    · intro h
      cases h
      exact .inl rfl
    · rintro (h | ⟨a, q', hstep, -⟩)
      · cases h
        rfl
      · cases hstep
  · constructor
    · exact fun h => .inr ⟨a, p', rfl, h⟩
    · rintro (h | ⟨a, q', hstep, h⟩)
      · cases h
      · cases hstep
        exact h

namespace InStep

theorem pure (a : α) : InStep R (Pure.pure a : Rendering σ α) (Pure.pure a : Rendering τ α) :=
  fun _ _ h => ⟨rfl, h⟩

theorem throw (e : SubstitutionError) :
    InStep R (MonadExcept.throw e : Rendering σ α) (MonadExcept.throw e : Rendering τ α) :=
  fun _ _ h => ⟨rfl, h⟩

theorem bind {step : Rendering σ α} {step' : Rendering τ α} {next : α → Rendering σ β}
    {next' : α → Rendering τ β} (h : InStep R step step')
    (hnext : ∀ a, InStep R (next a) (next' a)) : InStep R (step >>= next) (step' >>= next') := by
  intro p q hpq
  obtain ⟨hresult, hafter⟩ := h p q hpq
  rw [run_bind, run_bind]
  generalize step.run.run p = done at hresult hafter ⊢
  generalize step'.run.run q = done' at hresult hafter ⊢
  obtain ⟨result, p'⟩ := done
  obtain ⟨result', q'⟩ := done'
  simp only at hresult hafter
  subst hresult
  cases result with
  | error e => exact ⟨rfl, hafter⟩
  | ok a => exact hnext a p' q' hafter

theorem note (notes : List Note) :
    InStep R (Rendering.note notes : Rendering σ Unit) (Rendering.note notes) := by
  intro p q h
  refine ⟨rfl, h.memory, ?_, h.used⟩
  show p.notes ++ notes = q.notes ++ notes
  rw [h.notes]

theorem nextValue (values : List Value) :
    InStep R (Rendering.nextValue values : Rendering σ (Option Value))
      (Rendering.nextValue values) := by
  intro p q h
  have hsame : Argument.next values p.used = Argument.next values q.used := by rw [h.used]
  refine ⟨?_, h.memory, h.notes, congrArg Prod.snd hsame⟩
  show Except.ok (Argument.next values p.used).1 = Except.ok (Argument.next values q.used).1
  rw [hsame]

theorem fetch {shelf : Shelf σ} {shelf' : Shelf τ} (h : Shelf.Agree R shelf shelf')
    (source : Text) : InStep R (Rendering.fetch shelf source) (Rendering.fetch shelf' source) := by
  refine bind ?_ fun found => ?_
  · intro p q hpq
    obtain ⟨hfound, hmemory⟩ := h source p.memory q.memory hpq.memory
    exact ⟨congrArg Except.ok hfound, hmemory, hpq.notes, hpq.used⟩
  · cases found with
    | error e => exact throw _
    | ok t => exact pure t

theorem convert (spec : Conversion) (v : Value) :
    InStep R (Rendering.convert spec v : Rendering σ Text) (Rendering.convert spec v) := by
  unfold Rendering.convert
  cases spec.sprintf v with
  | error e => exact throw e
  | ok text => exact pure text

theorem display (v : Value) :
    InStep R (Rendering.display v : Rendering σ Text) (Rendering.display v) := by
  unfold Rendering.display
  cases v.written with
  | error fault => exact throw _
  | ok text => exact pure text

theorem require (argument : Argument) (key source : Text) :
    InStep R (Rendering.require argument key source : Rendering σ Value)
      (Rendering.require argument key source) := by
  unfold Rendering.require
  cases argument with
  | positional values => exact throw _
  | keyed entries =>
    simp only
    cases Value.lookup key entries with
    | none => exact throw _
    | some v => exact pure v

theorem renderPositional (argument : Argument) (spec : Conversion) (source : Text) :
    InStep R (Rendering.renderPositional argument spec source : Rendering σ Text)
      (Rendering.renderPositional argument spec source) := by
  unfold Rendering.renderPositional
  cases argument with
  | keyed entries => exact throw _
  | positional values =>
    refine bind (nextValue values) fun v => ?_
    cases v with
    | none => exact throw _
    | some v => exact convert spec v

theorem leave (source : Text) (reason : Note) :
    InStep R (Rendering.leave source reason : Rendering σ Text) (Rendering.leave source reason) :=
  bind (note [reason]) fun _ => pure source

section Nested

variable {setting : Setting} {nested : Text → Text → Rendering σ Text}
  {nested' : Text → Text → Rendering τ Text}

theorem renderPlural (h : ∀ source chosen, InStep R (nested source chosen) (nested' source chosen))
    (source countKey : Text) (categories : List (Value × Value) → Option Value) :
    InStep R (Rendering.renderPlural setting nested source countKey categories)
      (Rendering.renderPlural setting nested' source countKey categories) := by
  unfold Rendering.renderPlural
  cases setting.argument with
  | positional values => exact leave source _
  | keyed entries =>
    simp only
    cases Value.lookup countKey entries with
    | none => exact leave source _
    | some count =>
      cases categories entries with
      | none => exact leave source _
      | some categories =>
        refine bind (note _) fun _ => ?_
        generalize (Plural.resolve setting.classifier count setting.locale categories).1 = selected
        match selected with
        | .error fault => exact throw _
        | .ok none => exact leave source _
        | .ok (some chosen) => exact h source chosen

theorem renderSegment (h : ∀ source chosen, InStep R (nested source chosen) (nested' source chosen))
    (s : Segment) : InStep R (Rendering.renderSegment setting nested s)
      (Rendering.renderSegment setting nested' s) := by
  cases s with
  | literal text => exact pure text
  | positional spec => exact renderPositional _ spec _
  | named key spec => exact bind (require _ key _) fun v => convert _ v
  | value key => exact bind (require _ key _) fun v => display v
  | reference count rules => exact renderPlural h _ count _
  | inline body plural => exact renderPlural h _ plural.countKey _

theorem renderSegments
    (h : ∀ source chosen, InStep R (nested source chosen) (nested' source chosen))
    (segments : List Segment) : InStep R (Rendering.renderSegments setting nested segments)
      (Rendering.renderSegments setting nested' segments) := by
  induction segments with
  | nil => exact pure []
  | cons s segments ih =>
    exact bind (renderSegment h s) fun text => bind ih fun rest => pure (text ++ rest)

end Nested

/-- Renderings of one template on two shelves that agree. -/
theorem render {shelf : Shelf σ} {shelf' : Shelf τ} (h : Shelf.Agree R shelf shelf')
    (setting : Setting) (levels : Nat) (t : Template) :
    InStep R (Rendering.render shelf setting levels t)
      (Rendering.render shelf' setting levels t) := by
  induction levels generalizing t with
  | zero => exact renderSegments (fun _ _ => throw _) t.segments
  | succ levels ih =>
    exact renderSegments (fun _ chosen => bind (fetch h chosen) fun t => ih t) t.segments

theorem answer {step : Rendering σ Text} {step' : Rendering τ Text} (h : InStep R step step')
    {m : σ} {n : τ} (hmemory : R m n) :
    (step.answer m).1 = (step'.answer n).1 ∧ R (step.answer m).2 (step'.answer n).2 := by
  obtain ⟨hresult, hafter⟩ := h ⟨m, [], 0⟩ ⟨n, [], 0⟩ ⟨hmemory, rfl, rfl⟩
  exact ⟨congr (congrArg Answer.mk hresult) hafter.notes, hafter.memory⟩

end InStep

end Rendering

/-- Without a memory, a text is parsed where it is asked for. -/
theorem Rendering.answer_fetch_bare (source : Text) (next : Template → Rendering Unit Text) :
    (Rendering.fetch Shelf.bare source >>= next).answer () = match Template.parse source with
      | .error e => (⟨.error (.malformed e), []⟩, ())
      | .ok t => (next t).answer () := by
  have hfetch : (Rendering.fetch Shelf.bare source).run.run ⟨(), [], 0⟩ =
      ((Template.parse source).mapError .malformed, ⟨(), [], 0⟩) := by
    unfold Rendering.fetch Shelf.bare
    cases Template.parse source <;> rfl
  unfold Rendering.answer
  rw [run_bind, hfetch]
  cases Template.parse source <;> rfl

namespace Cache

/-- Every template in the cache is the one that its text parses to. -/
def Faithful (cache : Cache) : Prop :=
  ∀ entry ∈ cache.entries, Template.parse entry.1 = .ok entry.2

theorem faithful_empty : empty.Faithful := fun _ h => nomatch h

namespace Faithful

variable {cache : Cache}

theorem parse_of_find? (h : cache.Faithful) {source : Text} {t : Template}
    (hfind : cache.find? source = some t) : Template.parse source = .ok t := by
  obtain ⟨newer, older, hentries, -⟩ := List.lookup_eq_some_iff.mp hfind
  exact h (source, t) (by rw [hentries]; simp)

/-- What leaves to make room plays no part. -/
theorem insert (h : cache.Faithful) (size : Nat) {source : Text} {t : Template}
    (hparse : Template.parse source = .ok t) : (cache.insert size (source, t)).Faithful := by
  intro entry hentry
  have hkept : entry ∈ cache.entries ∨ entry = (source, t) := by
    unfold Cache.insert at hentry
    split at hentry
    · rcases List.mem_append.mp hentry with hold | hnew
      · exact .inl (List.mem_of_mem_drop hold)
      · exact .inr (List.mem_singleton.mp hnew)
    · rcases List.mem_append.mp hentry with hold | hnew
      · exact .inl hold
      · exact .inr (List.mem_singleton.mp hnew)
  rcases hkept with hold | rfl
  · exact h entry hold
  · exact hparse

end Faithful

/-- A faithful cache gives what parsing anew gives, and stays faithful. -/
theorem fetch_agree (size : Nat) :
    Shelf.Agree (fun cache (_ : Unit) => cache.Faithful) (fetch size) Shelf.bare := by
  intro source cache _ h
  unfold fetch
  cases hfind : cache.find? source with
  | some t => exact ⟨(h.parse_of_find? hfind).symm, h⟩
  | none =>
    simp only
    cases hparse : Template.parse source with
    | error e => exact ⟨hparse.symm, h⟩
    | ok t => exact ⟨hparse.symm, h.insert size hparse⟩

end Cache

/-- The answer of a template that is filled where nothing is remembered. -/
def Template.filled (setting : Setting) (t : Template) : Answer :=
  (Rendering.answer (Rendering.render Shelf.bare setting setting.limit t) ()).1

namespace Engine

/-- `after` is the engine `e` behind a call: the same but for its cache, which is faithful. -/
structure Continues (e after : Engine) : Prop where
  settings : after.settings = e.settings
  classifier : after.classifier = e.classifier
  cache : after.cache.Faithful

variable {e : Engine}

theorem template_eq_parse (h : e.cache.Faithful) (source : Text) :
    (e.template source).1 = Template.parse source ∧ Continues e (e.template source).2 := by
  obtain ⟨hfound, hcache⟩ := Cache.fetch_agree e.settings.cacheSize source e.cache () h
  exact ⟨hfound, rfl, rfl, hcache⟩

theorem formatTemplate_eq_evaluateTemplate (h : e.cache.Faithful) (t : Template)
    (argument : Value) (locale : Option Text) :
    (e.formatTemplate t argument locale).1 =
        evaluateTemplate e.settings e.classifier t argument locale ∧
      Continues e (e.formatTemplate t argument locale).2 := by
  let setting := setting e.settings e.classifier argument locale
  obtain ⟨hanswer, hcache⟩ := (Rendering.InStep.render (Cache.fetch_agree e.settings.cacheSize)
    setting setting.limit t).answer (m := e.cache) (n := ()) h
  exact ⟨hanswer, rfl, rfl, hcache⟩

theorem format_eq_evaluate (h : e.cache.Faithful) (source : Text) (argument : Value)
    (locale : Option Text) :
    (e.format source argument locale).1 = evaluate e.settings e.classifier source argument locale ∧
      Continues e (e.format source argument locale).2 := by
  let setting := setting e.settings e.classifier argument locale
  have hshelf := Cache.fetch_agree e.settings.cacheSize
  have hstep := Rendering.InStep.bind (Rendering.InStep.fetch hshelf source) fun t =>
    Rendering.InStep.render hshelf setting setting.limit t
  obtain ⟨hanswer, hcache⟩ := hstep.answer (m := e.cache) (n := ()) h
  refine ⟨hanswer.trans ?_, rfl, rfl, hcache⟩
  rw [Rendering.answer_fetch_bare, evaluate]
  cases Template.parse source with
  | error fault => rfl
  | ok t => rfl

/-- What a call on the engine fixes. -/
def callSetting (e : Engine) (argument : Value) (locale : Option Text) : Setting :=
  setting e.settings e.classifier argument locale

/-- The engines that calls lead to from a new one. -/
inductive Reachable : Engine → Prop
  | create (settings : Settings) (classifier : Plural.Classifier) :
      Reachable (create settings classifier)
  | template {e : Engine} (source : Text) : Reachable e → Reachable (e.template source).2
  | format {e : Engine} (source : Text) (argument : Value) (locale : Option Text) :
      Reachable e → Reachable (e.format source argument locale).2
  | formatTemplate {e : Engine} (t : Template) (argument : Value) (locale : Option Text) :
      Reachable e → Reachable (e.formatTemplate t argument locale).2

theorem Reachable.faithful (h : e.Reachable) : e.cache.Faithful := by
  induction h with
  | create settings classifier => exact Cache.faithful_empty
  | template source _ ih => exact (template_eq_parse ih source).2.cache
  | format source argument locale _ ih =>
    exact (format_eq_evaluate ih source argument locale).2.cache
  | formatTemplate t argument locale _ ih =>
    exact (formatTemplate_eq_evaluateTemplate ih t argument locale).2.cache

theorem Reachable.formatTemplate_eq_filled (h : e.Reachable) (t : Template) (argument : Value)
    (locale : Option Text) : (e.formatTemplate t argument locale).1 =
      t.filled (e.callSetting argument locale) :=
  (formatTemplate_eq_evaluateTemplate h.faithful t argument locale).1

theorem Reachable.format_of_parse (h : e.Reachable) {source : Text} {t : Template}
    (hparse : Template.parse source = .ok t) (argument : Value) (locale : Option Text) :
    (e.format source argument locale).1 = t.filled (e.callSetting argument locale) := by
  rw [(format_eq_evaluate h.faithful source argument locale).1, evaluate, hparse]
  rfl

theorem Reachable.format_of_parse_error (h : e.Reachable) {source : Text}
    {fault : InlinePlural.Malformed} (hparse : Template.parse source = .error fault)
    (argument : Value) (locale : Option Text) :
    (e.format source argument locale).1 = ⟨.error (.malformed fault), []⟩ := by
  rw [(format_eq_evaluate h.faithful source argument locale).1, evaluate, hparse]

end Engine

end Phrasebook
