import Phrasebook.Proofs.Engine.Choice

/-! Where a call goes.  A rendering arrives at segment after segment, and at those of a template
that a placeholder chose before those behind that placeholder.  Its visits make the text and the
notes in their order, the visit that fails decides the call, and a call that comes to the same at
every visit is the same. -/

namespace Phrasebook

/-- The arrival of a rendering at a segment: how many levels it has to go there, and how far the
call has come. -/
structure Visit where
  segment : Segment
  levels : Nat
  progress : Progress Unit

namespace Visit

open Rendering (below renderSegment)

variable (setting : Setting) (v : Visit)

/-- What the segment comes to, and how far the call has come then. -/
def result : Except SubstitutionError Text × Progress Unit :=
  (renderSegment setting (below Shelf.bare setting v.levels) v.segment).run.run v.progress

/-- The note on a plural placeholder that stays as it is written. -/
def reason? : Option Note :=
  match setting.choice? v.segment with
  | some (.unchanged reason, _) => some (reason v.segment.source)
  | _ => none

/-- The notes of the visit by itself: those of the classifier, then that on the placeholder. -/
def notes : List Note :=
  match setting.choice? v.segment with
  | some (_, notes) => notes ++ (v.reason? setting).toList
  | none => []

/-- The text of the visit by itself, which is empty where a template takes the place of the
placeholder. -/
def text : Text :=
  match setting.choice? v.segment, (v.result setting).1 with
  | some (.template _, _), _ => []
  | _, .ok text => text
  | _, .error _ => []

end Visit

namespace Rendering

/-- The visits of segments from left to right until one fails, where `inside` gives those of the
template text that a placeholder chose. -/
def segmentVisits (setting : Setting) (levels : Nat) (inside : Text → Progress Unit → List Visit) :
    List Segment → Progress Unit → List Visit
  | [], _ => []
  | s :: segments, p =>
    let v : Visit := ⟨s, levels, p⟩
    let within := match setting.choice? s with
      | some (.template chosen, notes) => inside chosen { p with notes := p.notes ++ notes }
      | _ => []
    let behind := match v.result setting with
      | (.ok _, q) => segmentVisits setting levels inside segments q
      | (.error _, _) => []
    v :: (within ++ behind)

/-- The visits of a template text that was chosen with `levels` to go. -/
def visitsBelow (setting : Setting) : Nat → Text → Progress Unit → List Visit
  | 0, _, _ => []
  | levels + 1, chosen, p =>
    match Template.parse chosen with
    | .ok t => segmentVisits setting levels (visitsBelow setting levels) t.segments p
    | .error _ => []

end Rendering

/-- The visits of a call, in order. -/
def Template.visits (setting : Setting) (t : Template) : List Visit :=
  Rendering.segmentVisits setting setting.limit (Rendering.visitsBelow setting setting.limit)
    t.segments ⟨(), [], 0⟩

namespace Rendering

variable {setting : Setting}

/-- A segment that is no plural placeholder makes no notes. -/
theorem notes_of_choice?_eq_none {s : Segment} (h : setting.choice? s = none)
    (nested : Text → Text → Rendering Unit Text) (p : Progress Unit) :
    ((renderSegment setting nested s).run.run p).2.notes = p.notes := by
  have hcomposes : Composes fun α (step : Rendering Unit α) =>
      ∀ p, (step.run.run p).2.notes = p.notes := by
    refine ⟨fun _ _ => rfl, fun _ _ => rfl, fun {α β step next} hstep hnext p => ?_⟩
    rw [run_bind, ← hstep p]
    rcases step.run.run p with ⟨_ | a, q⟩
    · rfl
    · exact hnext a q
  exact hcomposes.renderSegment (fun _ _ _ => rfl) h nested p

theorem run_renderSegments_cons_of_ok {nested : Text → Text → Rendering Unit Text} {s : Segment}
    {segments : List Segment} {p q : Progress Unit} {first : Text}
    (h : (renderSegment setting nested s).run.run p = (.ok first, q)) :
    (renderSegments setting nested (s :: segments)).run.run p =
      (((renderSegments setting nested segments).run.run q).1.map (first ++ ·),
        ((renderSegments setting nested segments).run.run q).2) := by
  rw [renderSegments, run_bind, h]
  simp only
  rw [run_bind]
  rcases (renderSegments setting nested segments).run.run q with ⟨_ | rest, q'⟩ <;> rfl

/-- The visits account for a run from `p`: for its notes, for its text if it succeeds, and for its
failure if one of them fails. -/
structure Traces (setting : Setting) (p : Progress Unit) (visits : List Visit)
    (run : Except SubstitutionError Text × Progress Unit) : Prop where
  notes : run.2.notes = p.notes ++ visits.flatMap (Visit.notes setting)
  text : ∀ text, run.1 = .ok text → text = visits.flatMap (Visit.text setting)
  failure : ∀ v ∈ visits, ∀ e q, v.result setting = (.error e, q) → run = (.error e, q)

namespace Traces

theorem nil (p : Progress Unit) : Traces setting p [] (.ok [], p) :=
  ⟨by simp, fun text h => by cases h; rfl, fun _ hv => nomatch hv⟩

/-- A visit that nothing is rendered inside of. -/
theorem single {v : Visit}
    (hnotes : (v.result setting).2.notes = v.progress.notes ++ v.notes setting)
    (htext : ∀ text, (v.result setting).1 = .ok text → text = v.text setting) :
    Traces setting v.progress [v] (v.result setting) := by
  refine ⟨by simpa using hnotes, by simpa using htext, fun v' hv' e q hfails => ?_⟩
  rwa [List.mem_singleton.mp hv'] at hfails

/-- A visit that comes to what is rendered inside of it. -/
theorem enter {v : Visit} {visits : List Visit} (htext : v.text setting = [])
    (h : Traces setting { v.progress with notes := v.progress.notes ++ v.notes setting } visits
      (v.result setting)) : Traces setting v.progress (v :: visits) (v.result setting) := by
  refine ⟨?_, fun text hok => ?_, List.forall_mem_cons.mpr ⟨fun _ _ hfails => hfails, h.failure⟩⟩
  · rw [h.notes, List.flatMap_cons, List.append_assoc]
  · rw [h.text text hok, List.flatMap_cons, htext, List.nil_append]

/-- A run behind another. -/
theorem append {p q : Progress Unit} {visits visits' : List Visit} {first : Text}
    {run : Except SubstitutionError Text × Progress Unit}
    (h : Traces setting p visits (.ok first, q)) (h' : Traces setting q visits' run) :
    Traces setting p (visits ++ visits') (run.1.map (first ++ ·), run.2) := by
  obtain ⟨result, q'⟩ := run
  refine ⟨?_, fun text hok => ?_, List.forall_mem_append.mpr ⟨?_, ?_⟩⟩
  · show (result, q').2.notes = _
    rw [h'.notes, List.flatMap_append, ← List.append_assoc, ← h.notes]
  · cases result with
    | error e => cases hok
    | ok rest =>
      cases hok
      rw [h.text first rfl, h'.text rest rfl, List.flatMap_append]
  · intro v hv e q'' hfails
    cases h.failure v hv e q'' hfails
  · intro v hv e q'' hfails
    cases h'.failure v hv e q'' hfails
    rfl

section

variable {levels : Nat} {inside : Text → Progress Unit → List Visit}
  (h : ∀ source chosen p,
    Traces setting p (inside chosen p) ((below Shelf.bare setting levels source chosen).run.run p))

include h in
theorem segment (s : Segment) (p : Progress Unit) :
    Traces setting p (⟨s, levels, p⟩ :: match setting.choice? s with
      | some (.template chosen, notes) => inside chosen { p with notes := p.notes ++ notes }
      | _ => []) (Visit.result setting ⟨s, levels, p⟩) := by
  let v : Visit := ⟨s, levels, p⟩
  cases hchoice : setting.choice? s with
  | none =>
    refine single (v := v) ?_ fun text hok => ?_
    · have hnotes : v.notes setting = [] := by simp only [v, Visit.notes, hchoice]
      rw [hnotes, List.append_nil]
      exact notes_of_choice?_eq_none hchoice _ p
    · simp only [v, Visit.text, hchoice]
      rw [hok]
  | some choice =>
    obtain ⟨choice, notes⟩ := choice
    have hresult : v.result setting =
        (follow (below Shelf.bare setting levels) s.source choice).run.run
          { p with notes := p.notes ++ notes } := by
      rw [Visit.result, renderSegment_of_choice? setting _ hchoice, run_note_bind]
    cases choice with
    | unchanged reason =>
      refine single (v := v) ?_ fun text hok => ?_
      · simp only [hresult, v, Visit.notes, Visit.reason?, hchoice]
        exact List.append_assoc _ _ _
      · simp only [v, Visit.text, hchoice]
        rw [hok]
    | fault fault =>
      refine single (v := v) ?_ fun text hok => ?_
      · simp only [hresult, v, Visit.notes, Visit.reason?, hchoice]
        exact (congrArg (p.notes ++ ·) (List.append_nil notes)).symm
      · rw [hresult] at hok
        cases hok
    | template chosen =>
      have hnotes : v.notes setting = notes := by
        simp only [v, Visit.notes, Visit.reason?, hchoice]
        exact List.append_nil notes
      refine enter (v := v) (by simp only [v, Visit.text, hchoice]) ?_
      rw [hnotes, hresult]
      exact h s.source chosen _

include h in
theorem segments (segments : List Segment) (p : Progress Unit) :
    Traces setting p (segmentVisits setting levels inside segments p)
      ((renderSegments setting (below Shelf.bare setting levels) segments).run.run p) := by
  induction segments generalizing p with
  | nil => exact nil p
  | cons s segments ih =>
    have hfirst := segment h s p
    rw [segmentVisits]
    rcases hresult : Visit.result setting ⟨s, levels, p⟩ with ⟨e | first, q⟩
    · rw [hresult] at hfirst
      rw [renderSegments, run_bind]
      simp only [Visit.result] at hresult
      simpa [hresult] using hfirst
    · rw [hresult] at hfirst
      rw [run_renderSegments_cons_of_ok hresult]
      exact hfirst.append (ih q)

end

theorem below (levels : Nat) (source chosen : Text) (p : Progress Unit) :
    Traces setting p (visitsBelow setting levels chosen p)
      ((Rendering.below Shelf.bare setting levels source chosen).run.run p) := by
  induction levels generalizing source chosen p with
  | zero =>
    exact ⟨(List.append_nil p.notes).symm, fun _ hok => (nomatch hok), fun _ hv => nomatch hv⟩
  | succ levels ih =>
    rw [visitsBelow, Rendering.below, fetch_bare]
    cases hparse : Template.parse chosen with
    | error e =>
      exact ⟨(List.append_nil p.notes).symm, fun _ hok => (nomatch hok), fun _ hv => nomatch hv⟩
    | ok t =>
      simp only [pure_bind, render_eq_below]
      exact segments ih t.segments p

end Traces

end Rendering

/-! ### Two calls -/

/-- A call in another setting, with templates from `parse`, comes to the same at the visit.  A
template text that is chosen with no level to go may be any other. -/
def Visit.Agrees (setting setting' : Setting)
    (parse : Text → Except InlinePlural.Malformed Template) (v : Visit) : Prop :=
  match setting.choice? v.segment with
  | some (.template chosen, notes) => ∃ chosen',
      setting'.choice? v.segment = some (.template chosen', notes) ∧
        (0 < v.levels → chosen' = chosen ∧ parse chosen = Template.parse chosen)
  | some choice => setting'.choice? v.segment = some choice
  | none => ∀ nested, (Rendering.renderSegment setting' nested v.segment).run.run v.progress =
      v.result setting

namespace Rendering

section

variable {setting setting' : Setting} {parse : Text → Except InlinePlural.Malformed Template}
  {levels : Nat} {inside : Text → Progress Unit → List Visit}
  {nested : Text → Text → Rendering Unit Text}
  (h : ∀ source chosen chosen' p,
    (0 < levels → chosen' = chosen ∧ parse chosen = Template.parse chosen) →
    (∀ v ∈ inside chosen p, v.Agrees setting setting' parse) →
    (nested source chosen').run.run p = (below Shelf.bare setting levels source chosen).run.run p)

include h in
theorem run_renderSegment_of_agrees {s : Segment} {p : Progress Unit}
    (hs : Visit.Agrees setting setting' parse ⟨s, levels, p⟩)
    (hinside : ∀ chosen notes, setting.choice? s = some (.template chosen, notes) →
      ∀ v ∈ inside chosen { p with notes := p.notes ++ notes }, v.Agrees setting setting' parse) :
    (renderSegment setting' nested s).run.run p = Visit.result setting ⟨s, levels, p⟩ := by
  unfold Visit.Agrees at hs
  cases hchoice : setting.choice? s with
  | none =>
    simp only [hchoice] at hs
    exact hs nested
  | some choice =>
    obtain ⟨choice, notes⟩ := choice
    simp only [hchoice] at hs
    rw [Visit.result, renderSegment_of_choice? setting _ hchoice, run_note_bind]
    cases choice with
    | unchanged reason => rw [renderSegment_of_choice? setting' _ hs, run_note_bind]; rfl
    | fault fault => rw [renderSegment_of_choice? setting' _ hs, run_note_bind]; rfl
    | template chosen =>
      obtain ⟨chosen', hchoice', hsame⟩ := hs
      rw [renderSegment_of_choice? setting' _ hchoice', run_note_bind]
      exact h s.source chosen chosen' _ hsame (hinside chosen notes hchoice)

include h in
theorem run_renderSegments_of_agrees {segments : List Segment} {p : Progress Unit}
    (hvisits : ∀ v ∈ segmentVisits setting levels inside segments p,
      v.Agrees setting setting' parse) :
    (renderSegments setting' nested segments).run.run p =
      (renderSegments setting (below Shelf.bare setting levels) segments).run.run p := by
  induction segments generalizing p with
  | nil => rfl
  | cons s segments ih =>
    rw [segmentVisits] at hvisits
    obtain ⟨hs, hbehind⟩ := List.forall_mem_cons.mp hvisits
    obtain ⟨hwithin, hbehind⟩ := List.forall_mem_append.mp hbehind
    have hfirst : (renderSegment setting' nested s).run.run p =
        Visit.result setting ⟨s, levels, p⟩ := by
      refine run_renderSegment_of_agrees h hs fun chosen notes hchoice => ?_
      simpa only [hchoice] using hwithin
    rcases hresult : Visit.result setting ⟨s, levels, p⟩ with ⟨e | first, q⟩
    · rw [run_renderSegments_cons_eq_error_iff.mpr (.inl (hfirst.trans hresult))]
      exact (run_renderSegments_cons_eq_error_iff.mpr (.inl hresult)).symm
    · rw [run_renderSegments_cons_of_ok (hfirst.trans hresult),
        run_renderSegments_cons_of_ok hresult, ih (by simpa only [hresult] using hbehind)]

end

section

variable {setting setting' : Setting} {parse : Text → Except InlinePlural.Malformed Template}
  (hlimit : setting'.limit = setting.limit)

include hlimit in
theorem run_below_of_agrees (levels : Nat) (source chosen chosen' : Text) (p : Progress Unit)
    (hsame : 0 < levels → chosen' = chosen ∧ parse chosen = Template.parse chosen)
    (hvisits : ∀ v ∈ visitsBelow setting levels chosen p, v.Agrees setting setting' parse) :
    (below (Shelf.parsing parse) setting' levels source chosen').run.run p =
      (below Shelf.bare setting levels source chosen).run.run p := by
  induction levels generalizing source chosen chosen' p with
  | zero => rw [below, below, hlimit]
  | succ levels ih =>
    obtain ⟨rfl, hparse⟩ := hsame levels.succ_pos
    rw [below, below, fetch_parsing, fetch_bare, hparse]
    rw [visitsBelow] at hvisits
    cases hfound : Template.parse chosen' with
    | error e => rfl
    | ok t =>
      simp only [hfound] at hvisits
      simp only [pure_bind, render_eq_below]
      exact run_renderSegments_of_agrees ih hvisits

end

end Rendering

namespace Template

variable {setting : Setting} {t : Template}

theorem traces_visits (setting : Setting) (t : Template) :
    Rendering.Traces setting ⟨(), [], 0⟩ (t.visits setting)
      ((Rendering.render Shelf.bare setting setting.limit t).run.run ⟨(), [], 0⟩) := by
  rw [Rendering.render_eq_below]
  exact Rendering.Traces.segments (Rendering.Traces.below setting.limit) t.segments _

/-- A call makes the notes of its visits, in their order. -/
theorem notes_filled :
    (t.filled setting).notes = (t.visits setting).flatMap (Visit.notes setting) := by
  have hnotes := (traces_visits setting t).notes
  rwa [List.nil_append] at hnotes

theorem text_filled {text : Text} (h : (t.filled setting).text = .ok text) :
    text = (t.visits setting).flatMap (Visit.text setting) :=
  (traces_visits setting t).text text h

/-- A visit that fails is the end of the call. -/
theorem filled_of_visit {v : Visit} (hv : v ∈ t.visits setting) {e : SubstitutionError}
    {q : Progress Unit} (h : v.result setting = (.error e, q)) :
    t.filled setting = ⟨.error e, q.notes⟩ := by
  have hrun := (traces_visits setting t).failure v hv e q h
  unfold filled Rendering.answer
  rw [hrun]

/-- Calls that come to the same at every visit have the same answer. -/
theorem answer_of_agrees {setting' : Setting}
    {parse : Text → Except InlinePlural.Malformed Template}
    (hlimit : setting'.limit = setting.limit)
    (h : ∀ v ∈ t.visits setting, v.Agrees setting setting' parse) :
    (Rendering.answer (Rendering.render (Shelf.parsing parse) setting' setting'.limit t) ()).1 =
      t.filled setting := by
  unfold filled Rendering.answer
  rw [hlimit, Rendering.render_eq_below, Rendering.render_eq_below,
    Rendering.run_renderSegments_of_agrees (Rendering.run_below_of_agrees hlimit setting.limit) h]

end Template

end Phrasebook
