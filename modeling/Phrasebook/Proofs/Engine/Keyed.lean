import Phrasebook.Proofs.Engine.Choice

/-! Templates filled with values by key.  What a segment comes to does not depend on the segments
before it, so the text of a template is that of its parts, one after the other. -/

namespace Phrasebook

namespace Rendering

variable {α β : Type}

/-- Wherever the step is taken, it comes to the same and adds the same notes. -/
def Independent (step : Rendering Unit α) : Prop :=
  ∃ notes, ∀ p, step.run.run p = (outcome step, { p with notes := p.notes ++ notes })

namespace Independent

theorem of_run {step : Rendering Unit α} (result : Except SubstitutionError α) (notes : List Note)
    (h : ∀ p, step.run.run p = (result, { p with notes := p.notes ++ notes })) :
    Independent step := by
  have hresult : outcome step = result := congrArg Prod.fst (h _)
  exact ⟨notes, fun p => by rw [h p, hresult]⟩

theorem pure (a : α) : Independent (Pure.pure a : Rendering Unit α) :=
  of_run (.ok a) [] fun p => by rw [List.append_nil]; rfl

theorem throw (e : SubstitutionError) :
    Independent (MonadExcept.throw e : Rendering Unit α) :=
  of_run (.error e) [] fun p => by rw [List.append_nil]; rfl

theorem note (notes : List Note) : Independent (Rendering.note notes) :=
  of_run (.ok ()) notes fun _ => rfl

section Bind

variable {step : Rendering Unit α} {next : α → Rendering Unit β}

theorem bind (h : Independent step) (hnext : ∀ a, Independent (next a)) :
    Independent (step >>= next) := by
  obtain ⟨notes, hrun⟩ := h
  cases hstep : outcome step with
  | error e =>
    refine of_run (.error e) notes fun p => ?_
    rw [run_bind, hrun p, hstep]
  | ok a =>
    obtain ⟨notes', hrun'⟩ := hnext a
    refine of_run (outcome (next a)) (notes ++ notes') fun p => ?_
    rw [run_bind, hrun p, hstep]
    simp only
    rw [hrun', List.append_assoc]

/-- The outcomes follow one another as the steps do. -/
theorem outcome_bind (h : Independent step) (hnext : ∀ a, Independent (next a)) :
    outcome (step >>= next) = outcome step >>= fun a => outcome (next a) := by
  obtain ⟨notes, hrun⟩ := h
  have hbind : outcome (step >>= next) = ((step >>= next).run.run ⟨(), [], 0⟩).1 := rfl
  rw [hbind, run_bind, hrun]
  cases outcome step with
  | error e => rfl
  | ok a =>
    obtain ⟨notes', hrun'⟩ := hnext a
    simp only
    rw [hrun']
    rfl

end Bind

theorem fetch (source : Text) : Independent (Rendering.fetch Shelf.bare source) := by
  refine bind ?_ fun found => ?_
  · exact of_run (.ok (Template.parse source)) [] fun p => by rw [List.append_nil]; rfl
  · cases found with
    | error e => exact throw _
    | ok t => exact pure t

theorem composes : Composes fun _ => Independent := ⟨pure, fun _ => throw _, bind⟩

section

variable {setting : Setting} {entries : List (Value × Value)}
  {nested : Text → Text → Rendering Unit Text}

theorem follow (h : ∀ source chosen, Independent (nested source chosen)) (source : Text)
    (choice : Plural.Choice) : Independent (Rendering.follow nested source choice) := by
  cases choice with
  | unchanged reason => exact bind (note _) fun _ => pure _
  | fault fault => exact throw _
  | template chosen => exact h source chosen

theorem renderSegment (hkeyed : setting.argument = .keyed entries)
    (h : ∀ source chosen, Independent (nested source chosen)) (s : Segment) :
    Independent (Rendering.renderSegment setting nested s) := by
  cases hchoice : setting.choice? s with
  | some choice =>
    rw [renderSegment_of_choice? setting nested hchoice]
    exact bind (note _) fun _ => follow h s.source choice.1
  | none =>
    exact composes.renderSegment (fun _ h => nomatch hkeyed.symm.trans h) hchoice nested

theorem renderSegments (hkeyed : setting.argument = .keyed entries)
    (h : ∀ source chosen, Independent (nested source chosen)) (segments : List Segment) :
    Independent (Rendering.renderSegments setting nested segments) := by
  induction segments with
  | nil => exact pure []
  | cons s segments ih =>
    exact bind (renderSegment hkeyed h s) fun text => bind ih fun rest => pure (text ++ rest)

theorem below (hkeyed : setting.argument = .keyed entries) (levels : Nat) (source chosen : Text) :
    Independent (Rendering.below Shelf.bare setting levels source chosen) := by
  induction levels generalizing source chosen with
  | zero => exact throw _
  | succ levels ih =>
    refine bind (fetch chosen) fun t => ?_
    rw [render_eq_below]
    exact renderSegments hkeyed ih t.segments

end

end Independent

section

variable {setting : Setting} {entries : List (Value × Value)}
  {nested : Text → Text → Rendering Unit Text}

theorem outcome_renderSegments_cons (hkeyed : setting.argument = .keyed entries)
    (h : ∀ source chosen, Independent (nested source chosen)) (s : Segment)
    (segments : List Segment) :
    outcome (renderSegments setting nested (s :: segments)) = do
      let text ← outcome (renderSegment setting nested s)
      let rest ← outcome (renderSegments setting nested segments)
      return text ++ rest := by
  have hrest := Independent.renderSegments hkeyed h segments
  rw [renderSegments, (Independent.renderSegment hkeyed h s).outcome_bind fun text =>
    hrest.bind fun rest => .pure (text ++ rest)]
  congr 1
  funext text
  exact hrest.outcome_bind fun rest => .pure (text ++ rest)

theorem outcome_renderSegments_append (hkeyed : setting.argument = .keyed entries)
    (h : ∀ source chosen, Independent (nested source chosen)) (before after : List Segment) :
    outcome (renderSegments setting nested (before ++ after)) = do
      let text ← outcome (renderSegments setting nested before)
      let rest ← outcome (renderSegments setting nested after)
      return text ++ rest := by
  induction before with
  | nil =>
    show _ = outcome (renderSegments setting nested after) >>= fun rest => Pure.pure ([] ++ rest)
    simp
  | cons s before ih =>
    rw [List.cons_append, outcome_renderSegments_cons hkeyed h, ih,
      outcome_renderSegments_cons hkeyed h]
    simp only [bind_assoc, pure_bind, List.append_assoc]

/-- The notes of a choice do not change what comes of it. -/
theorem outcome_renderSegment_of_choice? (h : ∀ source chosen, Independent (nested source chosen))
    {s : Segment} {choice : Plural.Choice × List Note} (hchoice : setting.choice? s = some choice) :
    outcome (renderSegment setting nested s) = outcome (follow nested s.source choice.1) := by
  rw [renderSegment_of_choice? setting nested hchoice]
  exact (Independent.note choice.2).outcome_bind fun _ => .follow h s.source choice.1

end

end Rendering

namespace Template

open Rendering (below outcome follow)

variable {setting : Setting} {entries : List (Value × Value)}

/-- The text of a template is that of its first segments and that of the others. -/
theorem text_filled_append (hkeyed : setting.argument = .keyed entries)
    {t : Template} (first others : Template)
    (h : t.segments = first.segments ++ others.segments) : (t.filled setting).text = do
      let text ← (first.filled setting).text
      let rest ← (others.filled setting).text
      return text ++ rest := by
  simp only [text_filled_eq_outcome, h]
  exact Rendering.outcome_renderSegments_append hkeyed
    (Rendering.Independent.below hkeyed setting.limit) first.segments others.segments

/-- A plural placeholder alone comes to what its choice does. -/
theorem text_filled_of_choice? (hkeyed : setting.argument = .keyed entries) {t : Template}
    {s : Segment} (ht : t.segments = [s]) {choice : Plural.Choice × List Note}
    (hchoice : setting.choice? s = some choice) : (t.filled setting).text =
      outcome (follow (below Shelf.bare setting setting.limit) s.source choice.1) := by
  have hbelow := Rendering.Independent.below hkeyed setting.limit
  rw [text_filled_eq_outcome, ht, Rendering.outcome_renderSegments_cons hkeyed hbelow,
    Rendering.outcome_renderSegment_of_choice? hbelow hchoice]
  cases outcome (follow (below Shelf.bare setting setting.limit) s.source choice.1) with
  | error e => rfl
  | ok text => exact congrArg Except.ok (List.append_nil text)

end Template

end Phrasebook
