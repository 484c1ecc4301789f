import Mathlib
import Phrasebook.Locale.Known
import Phrasebook.Proofs.Engine.Outline

/-! Failures are forgotten.  A step that fails changes nothing but what the engine that it used
remembers, and of that nothing is shown later. -/

namespace Phrasebook.Session

variable {s : Session}

/-- Whether a step fills a template. -/
def Step.formats : Step → Bool
  | .format .. | .formatHeld .. | .formatPhrase .. | .formatCurrent .. => true
  | _ => false

/-- What a step asks of the engine that it uses. -/
def requests (s : Session) : Step → List Request
  | .template source | .hold source => [.template source]
  | .format source argument locale | .formatCurrent source argument locale =>
    [.format source argument locale]
  | .formatHeld index argument locale =>
    match s.templates[index]? with
    | none => []
    | some t => [.formatTemplate t argument locale]
  | .formatPhrase index argument =>
    match s.phrases[index]? with
    | none => []
    | some p => p.requests argument
  | .phrase .. | .configure .. | .current => []

/-- The session with the engine that a step uses. -/
def readied [Locale.Catalog] (s : Session) : Step → Session
  | .formatCurrent .. => s.currentEngine.2
  | _ => s

/-- If any engine is made, it is the one that is used where none is named. -/
theorem readied_cases [Locale.Catalog] (s : Session) (step : Step) :
    s.readied step = s ∨ s.current = none ∧ s.readied step = s.install .usual := by
  cases step with
  | formatCurrent source argument locale =>
    simp only [readied, currentEngine]
    cases s.current with
    | some place => exact .inl rfl
    | none => exact .inr ⟨rfl, rfl⟩
  | _ => exact .inl rfl

theorem outline_readied [Locale.Catalog] (hs : Sound s) (step : Step) :
    (s.readied step).outline = s.outline := by
  cases step with
  | formatCurrent source argument locale => exact (outline_currentEngine hs).1
  | _ => rfl

theorem sound_readied [Locale.Catalog] (hs : Sound s) (step : Step) : Sound (s.readied step) := by
  cases step with
  | formatCurrent source argument locale => exact (currentEngine_follows hs).2.sound
  | _ => exact hs

theorem withTemplate_eq_self (hs : Sound s) {source : Text}
    {keep : Session → Template → Reply × Session} {fault : Fault}
    (h : (s.withTemplate source keep).1.reply = .error fault) :
    (s.withTemplate source keep).2 = s := by
  rw [withTemplate_eq_parse (hs.caches 0 (Nat.zero_le _))] at h ⊢
  cases hparse : Template.parse source with
  | error e => rfl
  | ok t =>
    rw [hparse] at h
    cases h

/-- A step that fails and fills no template changes nothing. -/
theorem run_eq_self [Locale.Catalog] (hs : Sound s) {step : Step} {fault : Fault}
    (h : (s.run step).1.reply = .error fault) (hstep : step.formats = false) :
    (s.run step).2 = s := by
  cases step with
  | template source => exact withTemplate_eq_self hs h
  | hold source => exact withTemplate_eq_self hs h
  | configure fields classifier =>
    simp only [run] at h ⊢
    cases hsettings : Settings.ofFields fields with
    | error e => rfl
    | ok settings =>
      rw [hsettings] at h
      cases h
  | phrase base locale onCurrent => cases h
  | current => cases h
  | format | formatHeld | formatPhrase | formatCurrent => cases hstep

theorem Serves.frame_used {place : Nat} {asked : List Request} {answer : Answer}
    {result : Outcome × Session} (h : Serves place asked s answer result) :
    Frame result.1.used asked s result.2 := by
  rw [h.outcome]
  exact h.frame

/-- A template that is asked for in vain. -/
theorem frame_withTemplate (hs : Sound s) {source : Text}
    {keep : Session → Template → Reply × Session} {fault : Fault}
    (h : (s.withTemplate source keep).1.reply = .error fault) :
    Frame (s.withTemplate source keep).1.used [.template source] s
      (s.withTemplate source keep).2 := by
  have hframe := (hs.template source).1
  unfold withTemplate at h ⊢
  generalize s.own.template source = found at h hframe ⊢
  obtain ⟨_ | t, e⟩ := found
  · exact hframe
  · cases h

/-- A step that fails changes only what the engine that it uses remembers, as its requests do. -/
theorem frame_run [Locale.Catalog] (hs : Sound s) {step : Step} {fault : Fault}
    (h : (s.run step).1.reply = .error fault) :
    Frame (s.run step).1.used (s.requests step) (s.readied step) (s.run step).2 := by
  cases step with
  | template source => exact frame_withTemplate hs h
  | hold source => exact frame_withTemplate hs h
  | format source argument locale =>
    exact (hs.formatOn (Nat.zero_le _) source argument locale).frame_used
  | formatHeld index argument locale =>
    simp only [run, readied, requests]
    cases s.templates[index]? with
    | none => exact .refl _ s
    | some t => exact (hs.formatTemplateOn (Nat.zero_le _) t argument locale).frame_used
  | formatPhrase index argument =>
    simp only [requests]
    cases hp : s.phrases[index]? with
    | none =>
      simp only [run, readied, formatPhrase, hp]
      exact .refl _ s
    | some p => exact (hs.formatPhrase hp argument).frame_used
  | formatCurrent source argument locale =>
    obtain ⟨hplace, hready⟩ := currentEngine_follows hs
    exact (hready.sound.formatOn hplace source argument locale).frame_used
  | configure fields classifier =>
    rw [run_eq_self hs h rfl]
    exact .refl _ s
  | phrase base locale onCurrent => cases h
  | current => cases h

/-- A step that fails changes nothing if it fills no template.  Else it changes what the engine that
it uses remembers, and this engine is made if there was none: the templates of the texts that were
looked up in vain and could be parsed, before the failure, are put in one after the other.  Later
events show what they would show if the step had not been taken. -/
theorem failure_is_forgotten [Locale.Catalog] (terms : Terms) (before : List Event) (step : Step)
    (fault : Fault) :
    let s := ((start terms.fresh).performAll before).2
    let outcome := (s.run step).1
    let after := (s.run step).2
    let ready := s.readied step
    let requests := s.requests step
    let e := ready.engine outcome.used
    let missed := e.missed requests
    outcome.reply = .error fault →
      (step.formats = false → after = s) ∧
        (ready = s ∨ s.current = none ∧ ready = s.install .usual) ∧
        Frame outcome.used requests ready after ∧
        (after.engine outcome.used).cache =
          missed.foldl (Cache.enter e.settings.cacheSize) e.cache ∧
        (∀ source ∈ missed, ∃ t, Template.parse source = .ok t) ∧
        ∀ later, (after.performAll later).1 = (s.performAll later).1 := by
  intro s outcome after ready requests e missed hfault
  have hs : Sound s := (performAll_outline (sound_start terms) before).2.sound
  have hframe : Frame outcome.used requests ready after := frame_run hs hfault
  obtain ⟨hcache, hparsed⟩ := Engine.cache_afterAll_eq_enter e requests
  rw [← hframe.engine] at hcache
  refine ⟨run_eq_self hs hfault, s.readied_cases step, hframe, hcache, hparsed, fun later => ?_⟩
  have houtline : after.outline = s.outline :=
    (hframe.outline_eq (sound_readied hs step)).trans (outline_readied hs step)
  rw [(performAll_outline (run_mirrors hs step).follows.sound later).1, houtline,
    (performAll_outline hs later).1]

open Text (lit)

set_option maxRecDepth 4000 in
/-- An engine that is made for a call which fails, and what it remembers of the call, are not seen. -/
theorem failure_is_forgotten_first_use :
    let s := start Engine.usual.terms.fresh
    let source := lit "%\x7bk\x7d"
    let (outcome, after) := s.run (.formatCurrent source (.map []) none)
    outcome.reply = .error (.substitution (.keyNotFound (lit "k"))) ∧
      s.current = none ∧ after.current = some 1 ∧ after.sources 1 = [source] ∧
      ∀ later, (after.performAll later).1 = (s.performAll later).1 := by
  intro s source
  have hreply : (s.run (.formatCurrent source (.map []) none)).1.reply =
      .error (.substitution (.keyNotFound (lit "k"))) := by
    simp only [s, source]
    cbv
  have hsources : (s.run (.formatCurrent source (.map []) none)).2.sources 1 = [source] := by
    simp only [s, source]
    cbv
  obtain ⟨-, -, hframe, -, -, hlater⟩ := failure_is_forgotten Engine.usual.terms []
    (.formatCurrent source (.map []) none) _ hreply
  exact ⟨hreply, rfl, hframe.current, hsources, hlater⟩

end Phrasebook.Session
