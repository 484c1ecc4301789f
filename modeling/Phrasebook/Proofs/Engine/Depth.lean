import Mathlib
import Phrasebook.Proofs.Engine.Choice

/-! How deep plural placeholders may nest.  A lower limit gives the same answer or refuses; and a
template is filled within a limit exactly if none of its chains of nested placeholders is longer. -/

namespace Phrasebook

/-- The failure of a placeholder that would nest deeper than the limit. -/
def Refused {α : Type} (result : Except SubstitutionError α) : Prop :=
  ∃ limit source, result = .error (.tooDeep limit source)

theorem not_refused_ok {α : Type} (a : α) : ¬Refused (.ok a : Except SubstitutionError α) := by
  rintro ⟨limit, source, h⟩
  cases h

theorem Refused.of_error {α β : Type} {e : SubstitutionError}
    (h : Refused (.error e : Except SubstitutionError α)) :
    Refused (.error e : Except SubstitutionError β) := by
  obtain ⟨limit, source, h⟩ := h
  cases h
  exact ⟨limit, source, rfl⟩

/-- A chain of plural placeholders, each in the template that the one before it chose: `n` of them,
the first in `t`. -/
inductive Nests (setting : Setting) : Template → Nat → Prop
  | none (t : Template) : Nests setting t 0
  | one {t : Template} {s : Segment} {chosen : Text} : s ∈ t.segments →
      setting.chosen? s = some chosen → Nests setting t 1
  | more {t t' : Template} {s : Segment} {chosen : Text} {n : Nat} : s ∈ t.segments →
      setting.chosen? s = some chosen → Template.parse chosen = .ok t' → Nests setting t' n →
      Nests setting t (n + 1)

namespace Rendering

variable {σ α β : Type}

/-! ### A higher limit -/

/-- The limit plays no part but in the message of a refusal. -/
theorem renderSegments_limit (setting : Setting) (limit : Nat)
    (nested : Text → Text → Rendering σ Text) (segments : List Segment) :
    renderSegments { setting with limit } nested segments =
      renderSegments setting nested segments := by
  induction segments with
  | nil => rfl
  | cons s segments ih =>
    rw [renderSegments, renderSegments, ih]
    rfl

/-- The second step does what the first one does, unless the first one is refused. -/
def Extends (step step' : Rendering σ α) : Prop :=
  ∀ p, Refused (step.run.run p).1 ∨ step'.run.run p = step.run.run p

namespace Extends

theorem refl (step : Rendering σ α) : Extends step step := fun _ => .inr rfl

theorem refused (step' : Rendering σ α) (limit : Nat) (source : Text) :
    Extends (throw (.tooDeep limit source)) step' := fun _ => .inl ⟨limit, source, rfl⟩

theorem bind {step step' : Rendering σ α} {next next' : α → Rendering σ β}
    (h : Extends step step') (hnext : ∀ a, Extends (next a) (next' a)) :
    Extends (step >>= next) (step' >>= next') := by
  intro p
  rw [run_bind, run_bind]
  rcases h p with hrefused | heq
  · rcases hrun : step.run.run p with ⟨e | a, q⟩
    · rw [hrun] at hrefused
      exact .inl (hrefused.of_error)
    · rw [hrun] at hrefused
      exact absurd hrefused (not_refused_ok a)
  · rw [heq]
    rcases step.run.run p with ⟨e | a, q⟩
    · exact .inr rfl
    · exact hnext a q

section

variable {setting : Setting} {nested nested' : Text → Text → Rendering σ Text}

theorem renderSegment (h : ∀ source chosen, Extends (nested source chosen) (nested' source chosen))
    (s : Segment) : Extends (Rendering.renderSegment setting nested s)
      (Rendering.renderSegment setting nested' s) := by
  cases hchoice : setting.choice? s with
  | none =>
    rw [renderSegment_of_choice?_eq_none setting nested hchoice nested']
    exact refl _
  | some choice =>
    rw [renderSegment_of_choice? setting nested hchoice,
      renderSegment_of_choice? setting nested' hchoice]
    refine bind (refl _) fun _ => ?_
    cases choice.1 with
    | unchanged reason => exact refl _
    | fault fault => exact refl _
    | template chosen => exact h s.source chosen

theorem renderSegments
    (h : ∀ source chosen, Extends (nested source chosen) (nested' source chosen))
    (segments : List Segment) : Extends (Rendering.renderSegments setting nested segments)
      (Rendering.renderSegments setting nested' segments) := by
  induction segments with
  | nil => exact refl _
  | cons s segments ih =>
    exact bind (renderSegment h s) fun _ => bind ih fun _ => refl _

end

section

variable (shelf : Shelf σ) (setting : Setting) (limit : Nat) {levels levels' : Nat}

theorem below (h : levels ≤ levels') (source chosen : Text) :
    Extends (Rendering.below shelf setting levels source chosen)
      (Rendering.below shelf { setting with limit } levels' source chosen) := by
  induction levels generalizing levels' source chosen with
  | zero => exact refused _ _ _
  | succ levels ih =>
    obtain ⟨levels', rfl⟩ := Nat.exists_eq_add_of_le' (Nat.lt_of_lt_of_le levels.succ_pos h)
    refine bind (refl _) fun t => ?_
    rw [render_eq_below, render_eq_below, renderSegments_limit setting limit]
    exact renderSegments (ih (Nat.le_of_succ_le_succ h)) t.segments

theorem render (h : levels ≤ levels') (t : Template) :
    Extends (Rendering.render shelf setting levels t)
      (Rendering.render shelf { setting with limit } levels' t) := by
  rw [render_eq_below, render_eq_below, renderSegments_limit setting limit]
  exact renderSegments (below shelf setting limit h) t.segments

end

end Extends

/-! ### Chains of placeholders -/

section

variable {setting : Setting} {nested : Text → Text → Rendering σ Text}

theorem run_renderSegment_of_ok {segments : List Segment} {p q : Progress σ} {text : Text}
    (h : (renderSegments setting nested segments).run.run p = (.ok text, q)) :
    ∀ s ∈ segments, ∃ p' text' q',
      (renderSegment setting nested s).run.run p' = (.ok text', q') := by
  induction segments generalizing p text with
  | nil => exact fun _ hs => nomatch hs
  | cons s segments ih =>
    obtain ⟨first, p', rest, hfirst, hrest, -⟩ := run_renderSegments_cons_eq_ok_iff.mp h
    exact List.forall_mem_cons.mpr ⟨⟨p, first, p', hfirst⟩, ih hrest⟩

theorem run_renderSegment_of_error {segments : List Segment} {p q : Progress σ}
    {e : SubstitutionError}
    (h : (renderSegments setting nested segments).run.run p = (.error e, q)) :
    ∃ s ∈ segments, ∃ p', (renderSegment setting nested s).run.run p' = (.error e, q) := by
  induction segments generalizing p with
  | nil => cases h
  | cons s segments ih =>
    rcases run_renderSegments_cons_eq_error_iff.mp h with hfirst | ⟨first, p', -, hrest⟩
    · exact ⟨s, List.mem_cons_self, p, hfirst⟩
    · obtain ⟨s', hs', p', hrun⟩ := ih hrest
      exact ⟨s', List.mem_cons_of_mem _ hs', p', hrun⟩

/-- A placeholder that chose a template is rendered as that template is. -/
theorem run_renderSegment_of_chosen? {s : Segment} {chosen : Text}
    (h : setting.chosen? s = some chosen) (p : Progress σ) : ∃ p',
      (renderSegment setting nested s).run.run p = (nested s.source chosen).run.run p' := by
  obtain ⟨notes, hchoice⟩ := Setting.chosen?_eq_some_iff.mp h
  rw [renderSegment_of_choice? setting nested hchoice, run_note_bind]
  exact ⟨_, rfl⟩

end

/-- A refusal comes from a placeholder that chose a template. -/
theorem exists_chosen?_of_refused {setting : Setting} {nested : Text → Text → Rendering σ Text}
    {s : Segment} {p q : Progress σ} {limit : Nat} {source : Text}
    (h : (renderSegment setting nested s).run.run p = (.error (.tooDeep limit source), q)) :
    ∃ chosen p', setting.chosen? s = some chosen ∧
      (nested s.source chosen).run.run p' = (.error (.tooDeep limit source), q) := by
  cases hchoice : setting.choice? s with
  | none => exact (FailsWith.renderSegment hchoice nested p q _ h).elim
  | some choice =>
    rw [renderSegment_of_choice? setting nested hchoice, run_note_bind] at h
    obtain ⟨choice, notes⟩ := choice
    cases choice with
    | unchanged reason => cases h
    | fault fault => cases h
    | template chosen => exact ⟨chosen, _, Setting.chosen?_eq_some_iff.mpr ⟨notes, hchoice⟩, h⟩

/-! ### Levels and chains -/

theorem run_fetch_bare_eq_ok_iff {source : Text} {t : Template} {p q : Progress Unit} :
    (fetch Shelf.bare source).run.run p = (.ok t, q) ↔ Template.parse source = .ok t ∧ q = p := by
  rw [fetch_bare]
  constructor
  · intro h
    cases hparse : Template.parse source with
    | error e =>
      rw [hparse] at h
      cases h
    | ok t' =>
      rw [hparse] at h
      cases h
      exact ⟨rfl, rfl⟩
  · rintro ⟨hparse, rfl⟩
    rw [hparse]
    rfl

theorem malformed_of_run_fetch_bare {source : Text} {e : SubstitutionError} {p q : Progress Unit}
    (h : (fetch Shelf.bare source).run.run p = (.error e, q)) :
    ∃ fault, Template.parse source = .error fault ∧ e = .malformed fault := by
  rw [fetch_bare] at h
  cases hparse : Template.parse source with
  | error fault =>
    rw [hparse] at h
    cases h
    exact ⟨fault, rfl, rfl⟩
  | ok t =>
    rw [hparse] at h
    cases h

variable {setting : Setting}

/-- Where a template is filled, each template that its placeholders choose is filled one level
deeper. -/
theorem exists_render_of_chosen? {levels : Nat} {t : Template} {p q : Progress Unit} {text : Text}
    (h : (render Shelf.bare setting levels t).run.run p = (.ok text, q)) {s : Segment}
    (hs : s ∈ t.segments) {chosen : Text} (hchosen : setting.chosen? s = some chosen) :
    ∃ levels' t' p' text' q', levels = levels' + 1 ∧ Template.parse chosen = .ok t' ∧
      (render Shelf.bare setting levels' t').run.run p' = (.ok text', q') := by
  rw [render_eq_below] at h
  obtain ⟨p', text', q', hrun⟩ := run_renderSegment_of_ok h s hs
  obtain ⟨p'', hnested⟩ := run_renderSegment_of_chosen? hchosen p'
  rw [hnested] at hrun
  cases levels with
  | zero => cases hrun
  | succ levels =>
    obtain ⟨t', p''', hfetch, hrender⟩ := run_bind_eq_ok_iff.mp hrun
    obtain ⟨hparse, -⟩ := run_fetch_bare_eq_ok_iff.mp hfetch
    exact ⟨levels, t', p''', text', q', rfl, hparse, hrender⟩

/-- A refusal comes at the end of a chain that is longer than the levels there were. -/
theorem nests_of_refused {levels : Nat} {t : Template} {p q : Progress Unit} {limit : Nat}
    {source : Text}
    (h : (render Shelf.bare setting levels t).run.run p = (.error (.tooDeep limit source), q)) :
    Nests setting t (levels + 1) := by
  induction levels generalizing t p with
  | zero =>
    obtain ⟨s, hs, p', hrun⟩ := run_renderSegment_of_error h
    obtain ⟨chosen, -, hchosen, -⟩ := exists_chosen?_of_refused hrun
    exact .one hs hchosen
  | succ levels ih =>
    obtain ⟨s, hs, p', hrun⟩ := run_renderSegment_of_error h
    obtain ⟨chosen, p'', hchosen, hnested⟩ := exists_chosen?_of_refused hrun
    rcases run_bind_eq_error_iff.mp hnested with hfetch | ⟨t', p''', hfetch, hrender⟩
    · obtain ⟨fault, -, hfault⟩ := malformed_of_run_fetch_bare hfetch
      cases hfault
    · obtain ⟨hparse, -⟩ := run_fetch_bare_eq_ok_iff.mp hfetch
      exact .more hs hchosen hparse (ih hrender)

end Rendering

namespace Nests

variable {setting : Setting} {t : Template} {n : Nat}

/-- Chains do not depend on the limit. -/
theorem limit (hn : Nests setting t n) (limit : Nat) : Nests { setting with limit } t n := by
  induction hn with
  | none t => exact .none t
  | one hs hchosen => exact .one hs hchosen
  | more hs hchosen hparse _ ih => exact .more hs hchosen hparse ih

/-- A template that is filled has no chain that is longer than the levels it was given. -/
theorem le_of_render_ok (hn : Nests setting t n) {levels : Nat} {p q : Progress Unit} {text : Text}
    (h : (Rendering.render Shelf.bare setting levels t).run.run p = (.ok text, q)) :
    n ≤ levels := by
  induction hn generalizing levels p q text with
  | none t => exact Nat.zero_le _
  | one hs hchosen =>
    obtain ⟨levels, -, -, -, -, rfl, -, -⟩ := Rendering.exists_render_of_chosen? h hs hchosen
    exact Nat.succ_le_succ (Nat.zero_le levels)
  | more hs hchosen hparse _ ih =>
    obtain ⟨levels, t', p', text', q', rfl, hparse', hrender⟩ :=
      Rendering.exists_render_of_chosen? h hs hchosen
    rw [hparse] at hparse'
    cases hparse'
    exact Nat.succ_le_succ (ih hrender)

end Nests

/-! ### The limit of an engine -/

namespace Template

variable {setting : Setting} {t : Template}

theorem filled_of_le (setting : Setting) (limit : Nat) (h : setting.limit ≤ limit) :
    Refused (t.filled setting).text ∨ t.filled { setting with limit } = t.filled setting := by
  rcases Rendering.Extends.render Shelf.bare setting limit h t ⟨(), [], 0⟩ with hrefused | heq
  · exact .inl hrefused
  · refine .inr ?_
    unfold filled Rendering.answer
    rw [heq]

theorem nests_le_of_filled {text : Text} (h : (t.filled setting).text = .ok text) {n : Nat}
    (hn : Nests setting t n) : n ≤ setting.limit :=
  hn.le_of_render_ok (p := ⟨(), [], 0⟩) (Prod.ext h rfl)

theorem nests_of_refused_filled (h : Refused (t.filled setting).text) :
    Nests setting t (setting.limit + 1) := by
  obtain ⟨limit, source, h⟩ := h
  exact Rendering.nests_of_refused (p := ⟨(), [], 0⟩) (Prod.ext h rfl)

/-- A template that can be filled at all is filled within a limit if no chain is longer, and
refused otherwise. -/
theorem filled_limit {text : Text} (hok : (t.filled setting).text = .ok text) {depth : Nat}
    (hdepth : IsGreatest {n | Nests setting t n} depth) (limit : Nat) :
    (t.filled { setting with limit }).text = .ok text ∧ depth ≤ limit ∨
      Refused (t.filled { setting with limit }).text ∧ limit < depth := by
  by_cases hrefused : Refused (t.filled { setting with limit }).text
  · have hnests := (nests_of_refused_filled hrefused).limit setting.limit
    exact .inr ⟨hrefused, hdepth.2 hnests⟩
  · refine .inl ?_
    have hsame : t.filled { setting with limit } = t.filled setting := by
      rcases Nat.le_total setting.limit limit with hle | hle
      · refine (filled_of_le setting limit hle).resolve_left fun h => ?_
        rw [hok] at h
        exact not_refused_ok text h
      · exact ((filled_of_le { setting with limit } setting.limit hle).resolve_left hrefused).symm
    rw [hsame]
    refine ⟨hok, ?_⟩
    rw [← hsame] at hok
    exact nests_le_of_filled hok (hdepth.1.limit limit)

/-- Where the template can be filled, one of its chains is the longest. -/
theorem exists_isGreatest_nests {text : Text} (h : (t.filled setting).text = .ok text) :
    ∃ depth, IsGreatest {n | Nests setting t n} depth := by
  have hbounded : BddAbove {n | Nests setting t n} :=
    ⟨setting.limit, fun _ hn => nests_le_of_filled h hn⟩
  exact ⟨sSup {n | Nests setting t n}, Nat.sSup_mem ⟨0, .none t⟩ hbounded,
    fun _ hn => le_csSup hbounded hn⟩

end Template

/-! ### Counting up to the limit -/

/-- `fill` renders a template that stands `depth` placeholders deep.  It counts up, and refuses what
would stand deeper than the limit. -/
def CountsUp (setting : Setting) (fill : Nat → Template → Rendering Unit Text) : Prop :=
  ∀ depth t, fill depth t = Rendering.renderSegments setting
    (fun source chosen =>
      if setting.limit < depth + 1 then throw (.tooDeep setting.limit source)
      else Rendering.fetch Shelf.bare chosen >>= fill (depth + 1)) t.segments

namespace CountsUp

open Rendering (render)

variable {setting : Setting}

theorem render_sub (setting : Setting) :
    CountsUp setting fun depth => render Shelf.bare setting (setting.limit - depth) := by
  intro depth t
  by_cases hdeep : setting.limit < depth + 1
  · have hlevels : setting.limit - depth = 0 := by omega
    simp only [hlevels, render, if_pos hdeep]
  · have hlevels : setting.limit - depth = setting.limit - (depth + 1) + 1 := by omega
    simp only [hlevels, render, if_neg hdeep]

theorem eq_render_sub {fill : Nat → Template → Rendering Unit Text} (h : CountsUp setting fill)
    (depth : Nat) : fill depth = render Shelf.bare setting (setting.limit - depth) := by
  induction hlevels : setting.limit - depth generalizing depth with
  | zero =>
    have hdeep : setting.limit < depth + 1 := by omega
    funext t
    rw [h depth t]
    simp only [render, if_pos hdeep]
  | succ levels ih =>
    have hdeep : ¬setting.limit < depth + 1 := by omega
    funext t
    rw [h depth t, ih (depth + 1) (by omega)]
    simp only [render, if_neg hdeep]

theorem existsUnique (setting : Setting) : ∃! fill, CountsUp setting fill :=
  ⟨_, render_sub setting, fun _ h => funext h.eq_render_sub⟩

end CountsUp

namespace Engine

/-- Engines that differ in nothing but their limits and what they remember. -/
structure Alike (e e' : Engine) : Prop where
  locale : e.settings.locale = e'.settings.locale
  classifier : e.classifier = e'.classifier

theorem Alike.callSetting {e e' : Engine} (h : e.Alike e') (argument : Value)
    (locale : Option Text) : e.callSetting argument locale =
      { e'.callSetting argument locale with limit := e.settings.maxDepth } := by
  unfold Engine.callSetting setting effectiveLocale
  rw [h.locale, h.classifier]

/-- A lower limit refuses or gives the same answer. -/
theorem Reachable.format_of_le {e e' : Engine} (he : e.Reachable) (he' : e'.Reachable)
    (halike : e.Alike e') (hle : e.settings.maxDepth ≤ e'.settings.maxDepth) (source : Text)
    (argument : Value) (locale : Option Text) :
    Refused (e.format source argument locale).1.text ∨
      (e'.format source argument locale).1 = (e.format source argument locale).1 := by
  cases hparse : Template.parse source with
  | error fault =>
    rw [he.format_of_parse_error hparse, he'.format_of_parse_error hparse]
    exact .inr rfl
  | ok t =>
    rw [he.format_of_parse hparse, he'.format_of_parse hparse, halike.callSetting]
    exact Template.filled_of_le
      { e'.callSetting argument locale with limit := e.settings.maxDepth } e'.settings.maxDepth hle

/-- The recursion that counts up to the limit has one solution, with which engines answer.  A higher
limit gives the same answer and the same notes wherever a lower one does not refuse, and refuses
only where the lower one does.  What can be filled at all is filled within a limit exactly if no
chain of nested placeholders is longer, and refused otherwise. -/
theorem format_within_limit (source : Text) (argument : Value) (locale : Option Text) :
    (∀ e : Engine, e.Reachable → (∃! fill, CountsUp (e.callSetting argument locale) fill) ∧
      ∀ fill, CountsUp (e.callSetting argument locale) fill →
        ∀ t, Template.parse source = .ok t →
          (e.format source argument locale).1 = (Rendering.answer (fill 0 t) ()).1) ∧
    (∀ e e' : Engine, e.Reachable → e'.Reachable → e.Alike e' →
      e.settings.maxDepth ≤ e'.settings.maxDepth →
        (¬Refused (e.format source argument locale).1.text →
          (e'.format source argument locale).1 = (e.format source argument locale).1) ∧
        (Refused (e'.format source argument locale).1.text →
          Refused (e.format source argument locale).1.text)) ∧
    ∀ (e' : Engine) (text : Text), e'.Reachable →
      (e'.format source argument locale).1.text = .ok text →
        ∃ t depth, Template.parse source = .ok t ∧
          IsGreatest {n | Nests (e'.callSetting argument locale) t n} depth ∧
          ∀ e : Engine, e.Reachable → e.Alike e' →
            ((∃ text, (e.format source argument locale).1.text = .ok text) ↔
              depth ≤ e.settings.maxDepth) ∧
            (e.settings.maxDepth < depth → Refused (e.format source argument locale).1.text) := by
  refine ⟨fun e he => ⟨CountsUp.existsUnique _, fun fill hfill t hparse => ?_⟩, ?_, ?_⟩
  · rw [he.format_of_parse hparse, hfill.eq_render_sub 0]
    rfl
  · intro e e' he he' halike hle
    rcases he.format_of_le he' halike hle source argument locale with hrefused | hsame
    · exact ⟨fun h => absurd hrefused h, fun _ => hrefused⟩
    · rw [hsame]
      exact ⟨fun _ => rfl, id⟩
  · intro e' text he' hok
    cases hparse : Template.parse source with
    | error fault =>
      rw [he'.format_of_parse_error hparse] at hok
      cases hok
    | ok t =>
      rw [he'.format_of_parse hparse] at hok
      obtain ⟨depth, hdepth⟩ := Template.exists_isGreatest_nests hok
      refine ⟨t, depth, rfl, hdepth, fun e he halike => ?_⟩
      rw [he.format_of_parse hparse, halike.callSetting]
      rcases Template.filled_limit hok hdepth e.settings.maxDepth with
        ⟨hfilled, hle⟩ | ⟨hrefused, hlt⟩
      · exact ⟨⟨fun _ => hle, fun _ => ⟨text, hfilled⟩⟩, fun hlt => absurd hle (by omega)⟩
      · refine ⟨⟨?_, fun hle => absurd hle (by omega)⟩, fun _ => hrefused⟩
        rintro ⟨text', hfilled⟩
        rw [hfilled] at hrefused
        exact absurd hrefused (not_refused_ok text')

open Text (lit)

/-- A new engine with a limit, for which every count is one. -/
def limited (maxDepth : Nat) (h : 0 < maxDepth) : Engine :=
  create ⟨lit "en", maxDepth, 1, h, Nat.one_pos⟩ (.constant (lit "one"))

/-- The template under `r` for one nests the template under `q` for one. -/
def nestedRules : Value := .map [(.text (lit "n"), .int 1),
  (.text (lit "r"), .map [(.text (lit "one"), .text (lit "%\x7bn:q\x7d"))]),
  (.text (lit "q"), .map [(.text (lit "one"), .text (lit "x"))])]

set_option maxRecDepth 4000 in
/-- Two placeholders nest: a limit of one refuses, a limit of two does not, and a limit of three
changes nothing. -/
theorem format_within_limit_two :
    let answer (maxDepth : Nat) (h : 0 < maxDepth) :=
      ((limited maxDepth h).format (lit "%\x7bn:r\x7d") nestedRules none).1
    Refused (answer 1 (by decide)).text ∧ (answer 2 (by decide)).text = .ok (lit "x") ∧
      answer 3 (by decide) = answer 2 (by decide) := by
  intro answer
  obtain ⟨-, hhigher, hchains⟩ := format_within_limit (lit "%\x7bn:r\x7d") nestedRules none
  have hreachable : ∀ maxDepth h, (limited maxDepth h).Reachable := fun _ _ => .create _ _
  have halike : ∀ maxDepth h maxDepth' h', (limited maxDepth h).Alike (limited maxDepth' h') :=
    fun _ _ _ _ => ⟨rfl, rfl⟩
  have hok : (answer 2 (by decide)).text = .ok (lit "x") := by cbv
  refine ⟨?_, hok, ?_⟩
  · obtain ⟨t, depth, hparse, hdepth, hlimit⟩ :=
      hchains (limited 2 (by decide)) (lit "x") (hreachable _ _) hok
    have houter : Template.parse (lit "%\x7bn:r\x7d") =
      .ok ⟨lit "%\x7bn:r\x7d", [.reference (lit "n") (lit "r")]⟩ := by cbv
    have hinner : Template.parse (lit "%\x7bn:q\x7d") =
      .ok ⟨lit "%\x7bn:q\x7d", [.reference (lit "n") (lit "q")]⟩ := by cbv
    rw [houter] at hparse
    cases hparse
    have hchosen : ((limited 2 (by decide)).callSetting nestedRules none).chosen?
      (.reference (lit "n") (lit "q")) = some (lit "x") := by cbv
    have hnests : 2 ≤ depth := hdepth.2 (.more List.mem_cons_self (by cbv) hinner
      (.one List.mem_cons_self hchosen))
    exact (hlimit (limited 1 (by decide)) (hreachable _ _) (halike _ _ _ _)).2 hnests
  · refine (hhigher (limited 2 (by decide)) (limited 3 (by decide)) (hreachable _ _)
      (hreachable _ _) (halike _ _ _ _) (by decide)).1 ?_
    intro hrefused
    exact not_refused_ok (lit "x") (hok ▸ hrefused)

end Engine

end Phrasebook
