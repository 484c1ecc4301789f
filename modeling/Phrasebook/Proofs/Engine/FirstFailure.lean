import Phrasebook.Proofs.Engine.Mention
import Phrasebook.Proofs.Engine.Visit
import Phrasebook.Proofs.Template.Parsing

/-! Which failure wins.  The first segment that fails decides a call, whatever stands behind it.  A
text that a call arrives at is parsed as a whole before anything of it is rendered, so that the
leftmost malformed inline plural wins over every segment; and no other text is parsed. -/

namespace Phrasebook

/-! ### The first segment that fails -/

namespace Rendering

section

variable {σ : Type} {setting : Setting} {nested : Text → Text → Rendering σ Text}
  {p q : Progress σ} {e : SubstitutionError}

theorem run_renderSegments_append_of_error {front : List Segment}
    (h : (renderSegments setting nested front).run.run p = (.error e, q)) (back : List Segment) :
    (renderSegments setting nested (front ++ back)).run.run p = (.error e, q) := by
  induction front generalizing p with
  | nil => cases h
  | cons s front ih =>
    refine run_renderSegments_cons_eq_error_iff.mpr ?_
    rcases run_renderSegments_cons_eq_error_iff.mp h with hfirst | ⟨first, p', hfirst, hfront⟩
    · exact .inl hfirst
    · exact .inr ⟨first, p', hfirst, ih hfront⟩

/-- Where segments fail, one of them is the first. -/
theorem exists_run_take_of_error {segments : List Segment}
    (h : (renderSegments setting nested segments).run.run p = (.error e, q)) :
    ∃ i < segments.length,
      (∃ text p', (renderSegments setting nested (segments.take i)).run.run p = (.ok text, p')) ∧
      (renderSegments setting nested (segments.take (i + 1))).run.run p = (.error e, q) := by
  induction segments generalizing p with
  | nil => cases h
  | cons s segments ih =>
    rcases run_renderSegments_cons_eq_error_iff.mp h with hfirst | ⟨first, p', hfirst, hsegments⟩
    · refine ⟨0, Nat.succ_pos _, ⟨[], p, rfl⟩, ?_⟩
      exact run_renderSegments_cons_eq_error_iff.mpr (.inl hfirst)
    · obtain ⟨i, hi, ⟨rest, p'', hrest⟩, hfails⟩ := ih hsegments
      refine ⟨i + 1, Nat.succ_lt_succ hi, ⟨first ++ rest, p'', ?_⟩, ?_⟩
      · exact run_renderSegments_cons_eq_ok_iff.mpr ⟨first, p', rest, hfirst, hrest, rfl⟩
      · exact run_renderSegments_cons_eq_error_iff.mpr (.inr ⟨first, p', hfirst, hfails⟩)

end

end Rendering

namespace Template

open Rendering (below renderSegments)

/-- The segments before the one at `i` are rendered one after the other, and then that one fails
with `error`. -/
def FailsFirstAt (t : Template) (setting : Setting) (i : Nat) (error : SubstitutionError) : Prop :=
  let run (segments : List Segment) :=
    (renderSegments setting (below Shelf.bare setting setting.limit) segments).run.run ⟨(), [], 0⟩
  (∃ text p, run (t.segments.take i) = (.ok text, p)) ∧
    ∃ q, run (t.segments.take (i + 1)) = (.error error, q)

variable {setting : Setting} {t t' : Template} {i : Nat} {error : SubstitutionError}

theorem exists_failsFirstAt (h : (t.filled setting).text = .error error) :
    ∃ i < t.segments.length, t.FailsFirstAt setting i error := by
  rw [text_filled_eq_outcome, Rendering.outcome] at h
  obtain ⟨i, hi, hbefore, hfails⟩ := Rendering.exists_run_take_of_error (Prod.ext h rfl)
  exact ⟨i, hi, hbefore, _, hfails⟩

/-- What is made of the segments up to the first that fails is the answer of every template that
begins with them. -/
theorem FailsFirstAt.exists_filled (h : t.FailsFirstAt setting i error) :
    ∃ notes, ∀ t' : Template, t'.segments.take (i + 1) = t.segments.take (i + 1) →
      t'.filled setting = ⟨.error error, notes⟩ := by
  obtain ⟨-, q, hfails⟩ := h
  refine ⟨q.notes, fun t' htake => ?_⟩
  have hrun := Rendering.run_renderSegments_append_of_error (htake ▸ hfails)
    (t'.segments.drop (i + 1))
  rw [List.take_append_drop] at hrun
  unfold filled Rendering.answer
  rw [Rendering.render_eq_below, hrun]

end Template

/-! ### What is parsed -/

namespace Visit

open Rendering (renderSegment)

variable {setting : Setting} {v : Visit}

/-- A template text that is chosen below the limit is parsed before anything of it is rendered. -/
theorem result_of_parse_error {levels : Nat} (hlevels : v.levels = levels + 1) {chosen : Text}
    {notes : List Note} (hchoice : setting.choice? v.segment = some (.template chosen, notes))
    {fault : InlinePlural.Malformed} (hparse : Template.parse chosen = .error fault) :
    v.result setting =
      (.error (.malformed fault), { v.progress with notes := v.progress.notes ++ notes }) := by
  rw [result, Rendering.renderSegment_of_choice? setting _ hchoice, Rendering.run_note_bind,
    hlevels]
  unfold Rendering.follow Rendering.below
  simp only [Rendering.fetch_bare, hparse]
  rfl

theorem agrees_of_parse {parse : Text → Except InlinePlural.Malformed Template}
    (h : ∀ chosen, 0 < v.levels → setting.chosen? v.segment = some chosen →
      parse chosen = Template.parse chosen) : v.Agrees setting setting parse := by
  unfold Agrees
  cases hchoice : setting.choice? v.segment with
  | none =>
    intro nested
    rw [Rendering.renderSegment_of_choice?_eq_none setting nested hchoice]
    rfl
  | some choice =>
    obtain ⟨choice, notes⟩ := choice
    cases choice with
    | unchanged reason => rfl
    | fault fault => rfl
    | template chosen =>
      refine ⟨chosen, rfl, fun hlevels => ⟨rfl, h chosen hlevels ?_⟩⟩
      exact Setting.chosen?_eq_some_iff.mpr ⟨notes, hchoice⟩

/-- Other entries lead to the same at the visit: they bind the keys of the segment alike, or they
bind its rules key to other rules that hold the same template text for the count.  With no level to
go, they need only both hold one, hold none, or hold a value that cannot be shown. -/
def Keeps (setting : Setting) (entries entries' : List (Value × Value)) (v : Visit) : Prop :=
  (∀ key ∈ v.segment.keys, Value.lookup key entries' = Value.lookup key entries) ∨
  ∃ count rules held held', v.segment = .reference count rules ∧
    Value.lookup count entries' = Value.lookup count entries ∧
    Value.lookup rules entries = some (.map held) ∧
    Value.lookup rules entries' = some (.map held') ∧
    ∀ n tag, (Value.lookup count entries).bind Value.count? = some n →
      (setting.classifier n setting.locale).tag = .ok tag →
      (Plural.templateFor held' tag).map Option.isSome =
          (Plural.templateFor held tag).map Option.isSome ∧
        (0 < v.levels → Plural.templateFor held' tag = Plural.templateFor held tag)

theorem agrees_of_choice? {setting' : Setting} {choice : Plural.Choice × List Note}
    (h : setting.choice? v.segment = some choice) (h' : setting'.choice? v.segment = some choice) :
    v.Agrees setting setting' Template.parse := by
  obtain ⟨choice, notes⟩ := choice
  unfold Agrees
  rw [h, h']
  cases choice with
  | unchanged reason => rfl
  | fault fault => rfl
  | template chosen => exact ⟨chosen, rfl, fun _ => ⟨rfl, rfl⟩⟩

/-- A call in a setting that chooses the same, and that renders the other segments in the same way,
comes to the same. -/
theorem agrees_of_same {setting' : Setting}
    (hchoice : setting'.choice? v.segment = setting.choice? v.segment)
    (hrender : setting.choice? v.segment = none → ∀ nested : Text → Text → Rendering Unit Text,
      renderSegment setting' nested v.segment = renderSegment setting nested v.segment) :
    v.Agrees setting setting' Template.parse := by
  cases h : setting.choice? v.segment with
  | some choice => exact agrees_of_choice? h (hchoice.trans h)
  | none =>
    unfold Agrees
    rw [h]
    intro nested
    rw [hrender h, Rendering.renderSegment_of_choice?_eq_none setting nested h]
    rfl

variable {entries entries' : List (Value × Value)}

theorem agrees_of_keys
    (h : ∀ key ∈ v.segment.keys, Value.lookup key entries' = Value.lookup key entries) :
    v.Agrees (setting.keyed entries) (setting.keyed entries') Template.parse :=
  agrees_of_same (Setting.choice?_of_keys h) fun _ _ =>
    Rendering.renderSegment_of_keys h fun _ _ _ => rfl

section

variable {found : Except Uncaught (Option Text)}

theorem eq_error_of_map_isSome {fault : Uncaught} (h : found.map Option.isSome = .error fault) :
    found = .error fault := by
  cases found <;> cases h
  rfl

theorem eq_none_of_map_isSome (h : found.map Option.isSome = .ok false) : found = .ok none := by
  rcases found with fault | _ | chosen <;> cases h
  rfl

theorem exists_some_of_map_isSome (h : found.map Option.isSome = .ok true) :
    ∃ chosen, found = .ok (some chosen) := by
  rcases found with fault | _ | chosen <;> cases h
  exact ⟨chosen, rfl⟩

end

/-- Rules that hold the same template text for a count come to the same. -/
theorem agrees_of_rules {count rules : Text} {held held' : List (Value × Value)}
    (hv : v.segment = .reference count rules)
    (hcount : Value.lookup count entries' = Value.lookup count entries)
    (hheld : Value.lookup rules entries = some (.map held))
    (hheld' : Value.lookup rules entries' = some (.map held'))
    (h : ∀ n tag, (Value.lookup count entries).bind Value.count? = some n →
      (setting.classifier n setting.locale).tag = .ok tag →
      (Plural.templateFor held' tag).map Option.isSome =
          (Plural.templateFor held tag).map Option.isSome ∧
        (0 < v.levels → Plural.templateFor held' tag = Plural.templateFor held tag)) :
    v.Agrees (setting.keyed entries) (setting.keyed entries') Template.parse := by
  have hsame {choice : Plural.Choice} {notes : List Note}
      (hchooses : (setting.keyed entries).Chooses count (Value.lookup rules) choice notes)
      (hchooses' : (setting.keyed entries').Chooses count (Value.lookup rules) choice notes) :
      v.Agrees (setting.keyed entries) (setting.keyed entries') Template.parse := by
    have hchoice : (setting.keyed entries).choice? v.segment = some (choice, notes) := by
      rw [hv, Setting.choice?, hchooses.choice_eq]
    have hchoice' : (setting.keyed entries').choice? v.segment = some (choice, notes) := by
      rw [hv, Setting.choice?, hchooses'.choice_eq]
    exact agrees_of_choice? hchoice hchoice'
  -- a count with the one rules is a count with the others
  have hother {entries₀ rules₀ : List (Value × Value)} {value : Value} {n : Count}
      (h : (setting.keyed entries).Counts count (Value.lookup rules) entries₀ value n rules₀) :
      rules₀ = held ∧ (Value.lookup count entries).bind Value.count? = some n ∧
        (setting.keyed entries').Counts count (Value.lookup rules) entries' value n held' := by
    cases h.keyed
    cases hheld.symm.trans h.isMap
    refine ⟨rfl, ?_, rfl, hcount.trans h.bound, h.isCount, hheld'⟩
    rw [h.bound]
    exact h.isCount
  obtain ⟨choice, notes, hchooses⟩ :=
    (setting.keyed entries).exists_chooses count (Value.lookup rules)
  cases hchooses with
  | noMapping hargument => cases hargument
  | missingData hargument hnone =>
    cases hargument
    have hlookup := hnone.resolve_right (by simp [hheld])
    exact hsame (.missingData rfl (.inl hlookup)) (.missingData rfl (.inl (hcount.trans hlookup)))
  | unusable hargument hlookup hfound hunusable =>
    cases hargument
    cases hheld.symm.trans hfound
    exact hsame (.unusable rfl hlookup hheld hunusable)
      (.unusable rfl (hcount.trans hlookup) hheld' fun n _ hn => absurd rfl (hunusable n held hn))
  | fault hcounts htag =>
    obtain ⟨-, -, hcounts'⟩ := hother hcounts
    exact hsame (.fault hcounts htag) (.fault hcounts' htag)
  | @noTemplate _ _ _ _ tag hcounts htag htemplate =>
    obtain ⟨rfl, hn, hcounts'⟩ := hother hcounts
    obtain ⟨hsome, -⟩ := h _ _ hn htag
    rw [htemplate] at hsome
    exact hsame (.noTemplate hcounts htag htemplate)
      (.noTemplate hcounts' htag (eq_none_of_map_isSome hsome))
  | @unwritable _ _ _ _ tag fault hcounts htag htemplate =>
    obtain ⟨rfl, hn, hcounts'⟩ := hother hcounts
    obtain ⟨hsome, -⟩ := h _ _ hn htag
    rw [htemplate] at hsome
    exact hsame (.unwritable hcounts htag htemplate)
      (.unwritable hcounts' htag (eq_error_of_map_isSome hsome))
  | @template _ _ _ _ tag chosen hcounts htag htemplate =>
    obtain ⟨rfl, hn, hcounts'⟩ := hother hcounts
    obtain ⟨hsome, hchosen⟩ := h _ _ hn htag
    rw [htemplate] at hsome hchosen
    obtain ⟨chosen', htemplate'⟩ := exists_some_of_map_isSome hsome
    rw [htemplate'] at hchosen
    have hchoice := Setting.Chooses.choice_eq (.template hcounts htag htemplate)
    have hchoice' := Setting.Chooses.choice_eq (.template hcounts' htag htemplate')
    unfold Agrees
    simp only [hv, Setting.choice?, hchoice, hchoice']
    refine ⟨chosen', rfl, fun hlevels => ⟨?_, trivial⟩⟩
    exact Option.some.inj (Except.ok.inj (hchosen hlevels))

theorem Keeps.agrees (h : v.Keeps setting entries entries') :
    v.Agrees (setting.keyed entries) (setting.keyed entries') Template.parse := by
  rcases h with hkeys | ⟨count, rules, held, held', hv, hcount, hheld, hheld', htemplate⟩
  · exact agrees_of_keys hkeys
  · exact agrees_of_rules hv hcount hheld hheld' htemplate

end Visit

namespace Engine

/-- Failures come as soon as they can, and in order.  A malformed inline plural in a text that is
parsed wins over everything in that text, and the leftmost wins over the others: nothing of the text
is rendered, and no note on it is made.  Otherwise the first segment that fails decides the answer,
whatever stands behind it.  The texts that are parsed are those chosen with a level to go: a call
comes to the same with any parser that agrees on them, and with any rules that hold the same of
them. -/
theorem format_fails_fast {e : Engine} (he : e.Reachable) (source : Text) (argument : Value)
    (locale : Option Text) :
    let setting := e.callSetting argument locale
    let answer := (e.format source argument locale).1
    (Piece.HasMalformed (Piece.scan source) →
      ∃ fault, Piece.FirstMalformed (Piece.scan source) fault ∧
        answer = ⟨.error (.malformed fault), []⟩) ∧
    ∀ t, Template.parse source = .ok t →
      (∀ error, answer.text = .error error →
        ∃ i < t.segments.length, t.FailsFirstAt setting i error) ∧
      (∀ i error, t.FailsFirstAt setting i error → answer.text = .error error ∧
        ∀ source' t', Template.parse source' = .ok t' →
          t'.segments.take (i + 1) = t.segments.take (i + 1) →
          (e.format source' argument locale).1 = answer) ∧
      (∀ v ∈ t.visits setting, ∀ chosen notes, 0 < v.levels →
        setting.choice? v.segment = some (.template chosen, notes) →
        Piece.HasMalformed (Piece.scan chosen) →
        ∃ fault, Piece.FirstMalformed (Piece.scan chosen) fault ∧
          answer = ⟨.error (.malformed fault), v.progress.notes ++ notes⟩) ∧
      (∀ parse, (∀ v ∈ t.visits setting, ∀ chosen, 0 < v.levels →
          setting.chosen? v.segment = some chosen → parse chosen = Template.parse chosen) →
        (Rendering.answer
          (Rendering.render (Shelf.parsing parse) setting setting.limit t) ()).1 = answer) ∧
      ∀ entries entries', argument = .map entries →
        (∀ v ∈ t.visits setting, v.Keeps setting entries entries') →
        (e.format source (.map entries') locale).1 = answer := by
  intro setting answer
  refine ⟨fun hmalformed => ?_, fun t hparse => ?_⟩
  · obtain ⟨fault, hfirst⟩ := hmalformed.exists_first
    exact ⟨fault, hfirst,
      he.format_of_parse_error (Template.parse_eq_error_iff.mpr hfirst) argument locale⟩
  · have hfilled : answer = t.filled setting := he.format_of_parse hparse argument locale
    refine ⟨fun error herror => ?_, fun i error hfirst => ?_,
      fun v hv chosen notes hlevels hchoice hmalformed => ?_, fun parse hsame => ?_, ?_⟩
    · exact Template.exists_failsFirstAt (hfilled ▸ herror)
    · obtain ⟨notes, hnotes⟩ := hfirst.exists_filled
      rw [hfilled, hnotes t rfl]
      refine ⟨rfl, fun source' t' hparse' htake => ?_⟩
      rw [he.format_of_parse hparse', hnotes t' htake]
    · obtain ⟨levels, hsucc⟩ := Nat.exists_eq_add_one.mpr hlevels
      obtain ⟨fault, hfirst⟩ := hmalformed.exists_first
      have hfails := Visit.result_of_parse_error hsucc hchoice
        (Template.parse_eq_error_iff.mpr hfirst)
      exact ⟨fault, hfirst, hfilled.trans (Template.filled_of_visit hv hfails)⟩
    · rw [hfilled]
      exact Template.answer_of_agrees rfl fun v hv => Visit.agrees_of_parse (hsame v hv)
    · rintro entries entries' rfl hkeeps
      rw [hfilled, he.format_of_parse hparse]
      exact Template.answer_of_agrees rfl fun v hv => (hkeeps v hv).agrees

open Text (lit)

set_option maxRecDepth 4000 in
/-- The chosen template text begins with a placeholder that a mapping cannot fill, and so does what
stands behind it in the source; but the chosen text is malformed. -/
theorem format_fails_fast_nested :
    let source := lit "%\x7bn:r\x7d%d"
    let chosen := lit "%d%<\x7b\x7d>"
    let entries : List (Value × Value) :=
      [(.text (lit "n"), .int 1), (.text (lit "r"), .map [(.text (lit "one"), .text chosen)])]
    singular.Reachable ∧ Piece.HasMalformed (Piece.scan chosen) ∧
      ∃ fault, Piece.FirstMalformed (Piece.scan chosen) fault ∧
        (singular.format source (.map entries) none).1 = ⟨.error (.malformed fault), []⟩ := by
  intro source chosen entries
  have hreachable : singular.Reachable := .create _ _
  have hparse : Template.parse source =
      .ok ⟨source, [.reference (lit "n") (lit "r"), .positional ⟨[], [], none, .d⟩]⟩ := by
    simp only [source]
    cbv
  have hscan : Piece.scan chosen =
      [.placeholder (.positional ⟨[], [], none, .d⟩), .placeholder (.inline (lit "\x7b\x7d"))] := by
    simp only [chosen]
    cbv
  have hmalformed : Piece.HasMalformed (Piece.scan chosen) := by
    rw [hscan]
    exact ⟨lit "\x7b\x7d", _, by simp, by cbv⟩
  obtain ⟨-, -, hnested, -⟩ :=
    (format_fails_fast hreachable source (.map entries) none).2 _ hparse
  exact ⟨hreachable, hmalformed, hnested ⟨.reference (lit "n") (lit "r"), 16, ⟨(), [], 0⟩⟩
    List.mem_cons_self chosen [] (by decide) rfl hmalformed⟩

end Engine

end Phrasebook
