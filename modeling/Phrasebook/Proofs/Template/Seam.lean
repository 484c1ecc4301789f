import Mathlib
import Phrasebook.Proofs.Engine.Choice
import Phrasebook.Proofs.Template.Canonical

/-! Texts behind one another.  Doubled text before a text is literal text before its pieces; and a
text that ends with a placeholder, and leaves no brace open, keeps its pieces before any other. -/

namespace Phrasebook

/-! ### Placeholders before a longer text -/

namespace Placeholder

open Braces (Ends)

/-- Only a key without a conversion depends on what follows it. -/
theorem Fits.of_conversion {p : Placeholder} {rest : Text} (h : p.Fits rest)
    (hp : ∀ key, p ≠ .named key none) (rest' : Text) : p.Fits rest' := by
  cases p with
  | named key spec =>
    cases spec with
    | none => exact absurd rfl (hp key)
    | some spec => exact h
  | positional spec => exact h
  | value key => exact h
  | reference count rules => exact h
  | inline body => exact h

theorem ne_of_isWord {c : Nat} (h : Text.isWord c) : c ≠ '%'.toNat ∧ c ≠ '"'.toNat ∧
    c ≠ '\\'.toNat ∧ c ≠ '{'.toNat ∧ c ≠ '}'.toNat := by
  refine ⟨?_, ?_, ?_, ?_, ?_⟩
  all_goals
    rintro rfl
    exact absurd h (by decide)

/-- Outside of inline plurals there are no percent signs. -/
theorem Fits.ne_percent {p : Placeholder} {rest : Text} (h : p.Fits rest)
    (hp : ∀ body, p ≠ .inline body) : ∀ c ∈ p.form, c ≠ '%'.toNat := by
  have hword {key : Text} (hkey : IsKey key) : ∀ c ∈ key, c ≠ '%'.toNat :=
    fun c hc => (ne_of_isWord (hkey.2 c hc)).1
  cases p with
  | inline body => exact absurd rfl (hp body)
  | positional spec => exact Conversion.WellFormed.ne_percent h
  | named key spec =>
    have hkey : IsKey key := by
      cases spec with
      | none => exact h.1
      | some spec => exact h.1
    have hspec : ∀ c ∈ spec.elim [] Conversion.written, c ≠ '%'.toNat := by
      cases spec with
      | none => exact List.forall_mem_nil _
      | some spec => exact h.2.ne_percent
    simp only [form, List.forall_mem_cons, List.forall_mem_append]
    exact ⟨by decide, hword hkey, by decide, hspec⟩
  | value key =>
    simp only [form, List.forall_mem_cons, List.forall_mem_append]
    exact ⟨by decide, hword h, by decide, List.forall_mem_nil _⟩
  | reference count rules =>
    simp only [form, List.forall_mem_cons, List.forall_mem_append]
    exact ⟨by decide, hword h.1, by decide, hword h.2, by decide, List.forall_mem_nil _⟩

/-- No placeholder ends with the brace that closes a span which begins before it. -/
theorem Fits.not_ends {p : Placeholder} {rest : Text} (h : p.Fits rest) {n : Nat}
    {place : Braces.Place} : ¬Ends ⟨n + 1, place⟩ p.written := by
  have hlast {c : Nat} (hw : p.written.getLast? = some c) (hc : c ≠ '}'.toNat) :
      ¬Ends ⟨n + 1, place⟩ p.written := by
    intro hends
    obtain ⟨w, hw⟩ := List.getLast?_eq_some_iff.mp hw
    rw [hw] at hends
    obtain ⟨m, place', hends⟩ := Braces.exists_ends_of_append _ hends (List.cons_ne_nil c [])
    exact hc (Braces.eq_of_ends_singleton hends)
  have hbraced (inner : Text) (hw : p.written = '%'.toNat :: '{'.toNat :: (inner ++ ['}'.toNat]))
      (hinner : ∀ c ∈ inner, c ≠ '"'.toNat ∧ c ≠ '\\'.toNat ∧ c ≠ '{'.toNat ∧ c ≠ '}'.toNat) :
      ¬Ends ⟨n + 1, place⟩ p.written := by
    intro hends
    rw [hw] at hends
    obtain ⟨m, place', hends⟩ :=
      Braces.exists_ends_of_append ['%'.toNat] hends (List.cons_ne_nil _ _)
    exact Braces.not_ends_braced hinner hends
  have hspec (w : Text) (spec : Conversion) (hw : p.written = w ++ spec.written) :
      ¬Ends ⟨n + 1, place⟩ p.written := by
    have hletter : spec.letter.character ≠ '}'.toNat := by cases spec.letter <;> decide
    refine hlast (c := spec.letter.character) ?_ hletter
    rw [hw, Conversion.written, List.getLast?_append, List.getLast?_concat]
    rfl
  cases p with
  | positional spec => exact hspec ['%'.toNat] spec rfl
  | named key spec =>
    cases spec with
    | none => exact hlast (c := '>'.toNat) (by simp [written, form, List.getLast?_cons]) (by decide)
    | some spec =>
      exact hspec ('%'.toNat :: '<'.toNat :: (key ++ ['>'.toNat])) spec (by simp [written, form])
  | value key => exact hbraced key rfl fun c hc => (ne_of_isWord (h.2 c hc)).2
  | reference count rules =>
    refine hbraced (count ++ ':'.toNat :: rules) (by simp [written, form]) ?_
    rw [List.forall_mem_append, List.forall_mem_cons]
    exact ⟨fun c hc => (ne_of_isWord (h.1.2 c hc)).2, by decide,
      fun c hc => (ne_of_isWord (h.2.2 c hc)).2⟩
  | inline body => exact hlast (c := '>'.toNat) (by simp [written, form, List.getLast?_cons]) (by decide)

theorem percent_mem_written (p : Placeholder) : '%'.toNat ∈ p.written := List.mem_cons_self

end Placeholder

theorem Text.takeWhile_append_of_mem {c : Nat} {text : Text} (h : c ∈ text) (rest : Text) :
    (text ++ rest).takeWhile (· ≠ c) = text.takeWhile (· ≠ c) := by
  induction text with
  | nil => cases h
  | cons d text ih =>
    by_cases hd : d = c
    · simp [hd]
    · have hmem : c ∈ text := (List.mem_cons.mp h).resolve_left (Ne.symm hd)
      simp only [List.cons_append, List.takeWhile_cons, ih hmem]

namespace Placeholder

open Braces (Ends Span)

section

variable {p q : Placeholder} {w rest rest' : Text}

theorem Fits.exists_form_of_append (h : q.Fits rest') (hq : ∀ body, q ≠ .inline body)
    {behind : Text} (hpercent : '%'.toNat ∈ behind) (heq : behind ++ rest = q.form ++ rest') :
    ∃ rest'', q.Fits rest'' ∧ behind = q.form ++ rest'' := by
  rcases List.append_eq_append_iff.mp heq with ⟨after, hform, -⟩ | ⟨after, rfl, rfl⟩
  · -- the form would reach over the percent sign
    have hmem : '%'.toNat ∈ q.form := by
      rw [hform]
      exact List.mem_append_left after hpercent
    exact absurd rfl (h.ne_percent hq _ hmem)
  · have hmem : '%'.toNat ∈ after :=
      (List.mem_append.mp hpercent).resolve_left fun hmem => h.ne_percent hq _ hmem rfl
    exact ⟨after, h.congr (Text.takeWhile_append_of_mem hmem rest).symm, rfl⟩

/-- The brace that closes the body is not the last character of a placeholder, so the bracket behind
it is in the text before the seam. -/
theorem exists_form_of_append_inline {body behind : Text} (hbody : Span body) (hp : p.Fits behind)
    (hclosed : ∀ inner, w ++ p.written = '<'.toNat :: '{'.toNat :: inner →
      ∃ span after, Braces.span? ('{'.toNat :: inner) = some (span, after))
    (heq : w ++ p.written ++ rest = (inline body).form ++ rest') :
    ∃ after, w ++ p.written = (inline body).form ++ after := by
  obtain ⟨text, -, htext⟩ := id hbody
  have hform : (inline body).form ++ rest' = '<'.toNat :: (body ++ '>'.toNat :: rest') := by
    simp [form]
  obtain ⟨w, rfl⟩ : ∃ w', w = '<'.toNat :: '{'.toNat :: w' := by
    rw [hform, htext] at heq
    cases w with
    | nil => exact absurd (List.cons.inj heq).1 (by decide)
    | cons a w =>
      obtain ⟨rfl, hbehind⟩ := List.cons.inj heq
      cases w with
      | nil => exact absurd (List.cons.inj hbehind).1 (by decide)
      | cons b w =>
        obtain ⟨rfl, -⟩ := List.cons.inj hbehind
        exact ⟨w, rfl⟩
  obtain ⟨span, after, hspan⟩ := hclosed (w ++ p.written) rfl
  obtain ⟨hbalanced, hopen⟩ := (Braces.span?_eq_some_iff rfl).mp hspan
  have hsame : span ++ (after ++ rest) = body ++ '>'.toNat :: rest' := by
    rw [← List.append_assoc, ← hopen]
    rw [hform] at heq
    exact (List.cons.inj heq).2
  have hfound := Braces.span?_append hbalanced (after ++ rest)
  rw [hsame, Braces.span?_append hbody] at hfound
  obtain ⟨rfl, hafter⟩ := Prod.mk.inj (Option.some.inj hfound)
  cases after with
  | nil =>
    rw [List.append_nil] at hopen
    have hends : Ends .start ('{'.toNat :: (w ++ p.written)) := by
      rw [hopen]
      exact hbody.ends
    have hinside : Ends ⟨1, .outside⟩ (w ++ p.written) :=
      ((Braces.passes_openingBrace 0).ends_append_iff _).mp hends
    obtain ⟨m, place, hlast⟩ := Braces.exists_ends_of_append _ hinside (List.cons_ne_nil _ _)
    exact absurd hlast hp.not_ends
  | cons c after =>
    obtain ⟨rfl, -⟩ := List.cons.inj hafter
    refine ⟨after, ?_⟩
    simp only [List.cons_append, form] at hopen ⊢
    rw [hopen]
    simp

end

end Placeholder

/-! ### Cuts before a longer text -/

namespace Cut

/-- In front of a placeholder, a cut stays the first whatever follows the placeholder. -/
theorem Leads.append {cut : Cut} {w behind : Text} {p : Placeholder}
    (h : cut.Leads (w ++ p.written)) (hp : p.Fits behind)
    (hclosed : cut = .lone → ∀ inner, w ++ p.written = '<'.toNat :: '{'.toNat :: inner →
      ∃ span after, Braces.span? ('{'.toNat :: inner) = some (span, after)) (rest : Text) :
    cut.Leads (w ++ p.written ++ rest) := by
  have hpercent : '%'.toNat ∈ w ++ p.written := List.mem_append_right w p.percent_mem_written
  have hhead : (w ++ p.written ++ rest).head? = (w ++ p.written).head? :=
    List.head?_append_of_ne_nil _ (List.ne_nil_of_mem hpercent)
  cases cut with
  | run text => exact ⟨h.1, h.2.1, hhead ▸ h.2.2⟩
  | pair => trivial
  | placeholder q =>
    exact Placeholder.Fits.congr h (Text.takeWhile_append_of_mem hpercent rest)
  | lone =>
    refine ⟨hhead ▸ h.1, fun q rest' hq heq => ?_⟩
    by_cases hinline : ∃ body, q = .inline body
    · obtain ⟨body, rfl⟩ := hinline
      obtain ⟨after, hform⟩ := Placeholder.exists_form_of_append_inline hq hp (hclosed rfl) heq
      exact h.2 (.inline body) after hq hform
    · obtain ⟨after, hfits, hform⟩ :=
        hq.exists_form_of_append (fun body hbody => hinline ⟨body, hbody⟩) hpercent heq
      exact h.2 q after hfits hform

end Cut

/-! ### Pieces before a longer text -/

namespace Piece

theorem getLast?_prepend_eq_placeholder_iff {text : Text} {pieces : List Piece} {p : Placeholder} :
    (prepend text pieces).getLast? = some (.placeholder p) ↔
      pieces.getLast? = some (.placeholder p) := by
  cases pieces with
  | nil => simp [prepend]
  | cons piece pieces =>
    cases piece <;> cases pieces <;> simp [prepend, List.getLast?_cons]

/-- The text ends with a placeholder, and no conversion may follow this one. -/
def EndsWithPlaceholder (text : Text) : Prop :=
  ∃ p, (scan text).getLast? = some (.placeholder p) ∧ ∀ key, p ≠ .named key none

/-- Wherever a brace follows an angle bracket behind a percent sign that begins no placeholder, the
brace is closed within the text. -/
def ClosesBraces (text : Text) : Prop :=
  ∀ before behind inner, Segmentation text (before ++ .lone :: behind) →
    behind.flatMap Cut.source = '<'.toNat :: '{'.toNat :: inner →
      ∃ span after, Braces.span? ('{'.toNat :: inner) = some (span, after)

end Piece

namespace Cut

theorem before_ne_nil (cut : Cut) (pieces : List Piece) : cut.before pieces ≠ [] := by
  cases cut <;> cases pieces with
  | nil => exact List.cons_ne_nil _ _
  | cons piece pieces => cases piece <;> exact List.cons_ne_nil _ _

/-- The last piece is a placeholder exactly if the last cut is. -/
theorem getLast?_foldr_before {cuts : List Cut} {p : Placeholder} :
    (cuts.foldr before []).getLast? = some (.placeholder p) ↔
      cuts.getLast? = some (.placeholder p) := by
  induction cuts with
  | nil => simp
  | cons cut cuts ih =>
    rw [List.foldr_cons]
    cases hcut : cut.literal? with
    | some text =>
      rw [before_of_literal? hcut, Piece.getLast?_prepend_eq_placeholder_iff, ih]
      cases cuts with
      | nil =>
        constructor
        · intro h
          cases h
        · intro h
          cases h
          cases hcut
      | cons cut' cuts => rw [List.getLast?_cons_cons]
    | none =>
      obtain ⟨q, rfl⟩ : ∃ q, cut = .placeholder q := by cases cut <;> cases hcut; exact ⟨_, rfl⟩
      cases cuts with
      | nil => simp [before]
      | cons cut' cuts =>
        obtain ⟨piece, pieces, hpieces⟩ :=
          List.exists_cons_of_ne_nil (before_ne_nil cut' (cuts.foldr before []))
        rw [List.foldr_cons, hpieces] at ih ⊢
        rw [before, List.getLast?_cons_cons, List.getLast?_cons_cons, ih]

theorem foldr_before_append {cuts : List Cut} {p : Placeholder}
    (h : cuts.getLast? = some (.placeholder p)) (pieces : List Piece) :
    cuts.foldr before pieces = cuts.foldr before [] ++ pieces := by
  obtain ⟨cuts, rfl⟩ := List.getLast?_eq_some_iff.mp h
  simp only [List.foldr_append, List.foldr_cons, List.foldr_nil, before, foldr_before_placeholder,
    List.append_assoc, List.singleton_append]

end Cut

namespace Segmentation

theorem exists_append_written {text : Text} {cuts : List Cut} {p : Placeholder}
    (h : Segmentation text cuts) (hlast : cuts.getLast? = some (.placeholder p)) :
    ∃ w, text = w ++ p.written := by
  obtain ⟨cuts, rfl⟩ := List.getLast?_eq_some_iff.mp hlast
  refine ⟨cuts.flatMap Cut.source, ?_⟩
  rw [← h.flatMap_source, List.flatMap_append, List.flatMap_singleton]
  rfl

/-- Behind a placeholder that takes nothing of what follows it, a text is cut by itself, unless a
brace that is left open reaches over the seam. -/
theorem append {text rest : Text} {cuts cuts' : List Cut} {p : Placeholder}
    (h : Segmentation text cuts) (hlast : cuts.getLast? = some (.placeholder p))
    (hp : ∀ key, p ≠ .named key none)
    (hclosed : ∀ before behind inner, cuts = before ++ .lone :: behind →
      behind.flatMap Cut.source = '<'.toNat :: '{'.toNat :: inner →
        ∃ span after, Braces.span? ('{'.toNat :: inner) = some (span, after))
    (h' : Segmentation rest cuts') : Segmentation (text ++ rest) (cuts ++ cuts') := by
  induction h with
  | nil => cases hlast
  | @cons cut behind cuts hleads hcuts ih =>
    rw [List.append_assoc]
    cases cuts with
    | nil =>
      cases hlast
      cases hcuts
      exact .cons (Placeholder.Fits.of_conversion hleads hp _) h'
    | cons cut' cuts =>
      rw [List.getLast?_cons_cons] at hlast
      obtain ⟨after, hfits⟩ :=
        hcuts.exists_leads (.placeholder p) (List.mem_of_getLast? hlast)
      obtain ⟨w, rfl⟩ := hcuts.exists_append_written hlast
      refine .cons (hleads.append hfits (fun hlone inner hinner => ?_) rest) (ih hlast ?_)
      · refine hclosed [] (cut' :: cuts) inner (by rw [hlone]; rfl) ?_
        rw [hcuts.flatMap_source, hinner]
      · intro before behind' inner hbefore
        exact hclosed (cut :: before) behind' inner (by rw [hbefore]; rfl)

end Segmentation

namespace Piece

/-- Two texts behind one another have the pieces of the first and those of the second. -/
theorem scan_append_of_ends {text : Text} (hends : EndsWithPlaceholder text)
    (hclosed : ClosesBraces text) (rest : Text) :
    scan (text ++ rest) = scan text ++ scan rest := by
  obtain ⟨cuts, hcuts⟩ := Segmentation.exists_cuts text
  obtain ⟨cuts', hcuts'⟩ := Segmentation.exists_cuts rest
  obtain ⟨p, hlast, hp⟩ := hends
  rw [hcuts.scan_eq_foldr, Cut.getLast?_foldr_before] at hlast
  have happend := hcuts.append hlast hp
    (fun before behind inner heq => hclosed before behind inner (heq ▸ hcuts)) hcuts'
  rw [happend.scan_eq_foldr, List.foldr_append, ← hcuts'.scan_eq_foldr,
    Cut.foldr_before_append hlast, hcuts.scan_eq_foldr]

end Piece

/-! ### Literal text before a template -/

/-- The segments with literal text before them. -/
def Segment.prepend (text : Text) : List Segment → List Segment
  | .literal text' :: segments => .literal (text ++ text') :: segments
  | segments => .literal text :: segments

theorem Segment.prepend_placeholder {p : Placeholder} {s : Segment} (h : ofPlaceholder p = .ok s)
    (text : Text) (segments : List Segment) :
    prepend text (s :: segments) = .literal text :: s :: segments := by
  cases p with
  | inline body =>
    rw [ofPlaceholder] at h
    cases hparse : InlinePlural.parse body with
    | error e =>
      rw [hparse] at h
      cases h
    | ok plural =>
      rw [hparse] at h
      cases h
      rfl
  | _ =>
    cases h
    rfl

theorem Segment.mapM_prepend (text : Text) (pieces : List Piece) :
    (Piece.prepend text pieces).mapM Segment.ofPiece =
      (pieces.mapM Segment.ofPiece).map (Segment.prepend text) := by
  cases pieces with
  | nil => rfl
  | cons piece pieces =>
    cases piece with
    | literal text' =>
      rw [Piece.prepend, List.mapM_cons, List.mapM_cons]
      cases pieces.mapM Segment.ofPiece <;> rfl
    | placeholder p =>
      rw [Piece.prepend, List.mapM_cons, List.mapM_cons]
      · cases hp : Segment.ofPlaceholder p with
        | error e =>
          simp only [Segment.ofPiece, hp]
          rfl
        | ok s =>
          simp only [Segment.ofPiece, hp]
          cases pieces.mapM Segment.ofPiece with
          | error e => rfl
          | ok segments => exact congrArg Except.ok (prepend_placeholder hp text segments).symm
      · intro text' pieces' h
        cases h

namespace Rendering

variable {σ : Type}

/-- The step with literal text before the text that it gives. -/
def behind (text : Text) (step : Rendering σ Text) : Rendering σ Text := do
  let rest ← step
  return text ++ rest

theorem renderSegments_prepend (setting : Setting) (nested : Text → Text → Rendering σ Text)
    (text : Text) (segments : List Segment) :
    renderSegments setting nested (Segment.prepend text segments) =
      behind text (renderSegments setting nested segments) := by
  have hliteral (text : Text) (segments : List Segment) :
      renderSegments setting nested (.literal text :: segments) =
        behind text (renderSegments setting nested segments) := by
    rw [renderSegments, renderSegment, pure_bind]
    rfl
  cases segments with
  | nil => exact hliteral text []
  | cons s segments =>
    cases s with
    | literal text' =>
      rw [Segment.prepend, hliteral, hliteral]
      simp only [behind, bind_assoc, pure_bind, List.append_assoc]
    | _ => exact hliteral text _

theorem answer_behind (text : Text) (step : Rendering σ Text) (memory : σ) :
    (behind text step).answer memory =
      (⟨(step.answer memory).1.text.map (text ++ ·), (step.answer memory).1.notes⟩,
        (step.answer memory).2) := by
  unfold answer behind
  rw [run_bind]
  rcases step.run.run ⟨memory, [], 0⟩ with ⟨_ | rest, progress⟩ <;> rfl

end Rendering

/-- Doubled text before a text that is filled is copied. -/
theorem Engine.evaluate_doubled_append (before source : Text) (settings : Settings)
    (classifier : Plural.Classifier) (argument : Value) (locale : Option Text) :
    evaluate settings classifier (before.doubled ++ source) argument locale =
      ⟨(evaluate settings classifier source argument locale).text.map (before ++ ·),
        (evaluate settings classifier source argument locale).notes⟩ := by
  by_cases hnil : before = []
  · subst hnil
    show evaluate settings classifier source argument locale = _
    cases evaluate settings classifier source argument locale with
    | mk text notes => cases text <;> rfl
  · unfold evaluate Template.parse
    rw [Piece.scan_doubled_append hnil, Segment.mapM_prepend]
    cases (Piece.scan source).mapM Segment.ofPiece with
    | error e => rfl
    | ok segments =>
      simp only [Except.map, evaluateTemplate, Rendering.render_eq_below,
        Rendering.renderSegments_prepend, Rendering.answer_behind]

/-- Text behind text.  Doubled text is literal text before the pieces of any text, and copied before
what the text is filled with, whose faults and notes stay the same.  A text that ends with a
placeholder, and leaves no brace open, has its own pieces before those of any text. -/
theorem Piece.scan_compositional (before text : Text) :
    scan (before.doubled ++ text) =
      (if before = [] then scan text else prepend before (scan text)) ∧
    (∀ e : Engine, e.Reachable → ∀ (argument : Value) (locale : Option Text),
      let answer := (e.format text argument locale).1
      (e.format (before.doubled ++ text) argument locale).1 =
        ⟨answer.text.map (before ++ ·), answer.notes⟩) ∧
    ∀ first, EndsWithPlaceholder first → ClosesBraces first →
      scan (first ++ text) = scan first ++ scan text := by
  refine ⟨?_, fun e he argument locale => ?_, fun first hends hclosed => ?_⟩
  · split
    · next hnil =>
      subst hnil
      rfl
    · next hne => exact scan_doubled_append hne text
  · simp only [(Engine.format_eq_evaluate he.faithful _ argument locale).1]
    exact Engine.evaluate_doubled_append before text _ _ argument locale
  · exact scan_append_of_ends hends hclosed text

open Text (lit)

set_option maxRecDepth 4000 in
/-- A brace that is closed without an angle bracket behind it begins nothing, whatever follows; and
a percent sign that is doubled takes no conversion from what follows. -/
theorem Piece.scan_compositional_closed :
    let first := lit "%<\x7b\x7d-%\x7ba\x7d"
    EndsWithPlaceholder first ∧ ClosesBraces first ∧
      scan (first ++ lit ">%d") = scan first ++ scan (lit ">%d") ∧ Engine.usual.Reachable ∧
      (Engine.usual.format (Text.doubled (lit "5%") ++ lit "%s") (.text (lit "x")) none).1.text =
        .ok (lit "5%x") := by
  intro first
  have hcuts : Segmentation first
      [.lone, .run (lit "<\x7b\x7d-"), .placeholder (.value (lit "a"))] :=
    .of_first? (by simp only [first]; cbv) (.of_first? (by cbv) (.of_first? (by cbv) .nil))
  have hends : EndsWithPlaceholder first := by
    refine ⟨.value (lit "a"), ?_, fun _ => by simp⟩
    rw [hcuts.scan_eq_foldr, Cut.getLast?_foldr_before]
    rfl
  have hclosed : ClosesBraces first := by
    intro before behind inner hbefore hinner
    have heq := hbefore.unique hcuts
    obtain _ | ⟨cut, _ | ⟨cut', _ | ⟨cut'', before⟩⟩⟩ := before
    · obtain ⟨-, rfl⟩ := List.cons.inj heq
      obtain rfl : lit "\x7d-%\x7ba\x7d" = inner := (List.cons.inj (List.cons.inj hinner).2).2
      exact ⟨lit "\x7b\x7d", lit "-%\x7ba\x7d", by decide⟩
    · cases (List.cons.inj (List.cons.inj heq).2).1
    · cases (List.cons.inj (List.cons.inj (List.cons.inj heq).2).2).1
    · cases (List.append_eq_nil_iff.mp (List.cons.inj (List.cons.inj (List.cons.inj heq).2).2).2).2
  have husual : Engine.usual.Reachable := .create _ _
  obtain ⟨-, hformat, -⟩ := scan_compositional (lit "5%") (lit "%s")
  refine ⟨hends, hclosed, (scan_compositional [] (lit ">%d")).2.2 first hends hclosed, husual, ?_⟩
  rw [hformat _ husual]
  have htext : (Engine.usual.format (lit "%s") (.text (lit "x")) none).1.text = .ok (lit "x") := by
    cbv
  rw [htext]
  rfl

end Phrasebook
