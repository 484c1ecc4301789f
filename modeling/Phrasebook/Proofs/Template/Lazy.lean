import Phrasebook.Proofs.Template.Parsing

/-! Parsing piece by piece.  The segments come one after another until an inline plural is
malformed; up to there they are those of the text that is cut off where that placeholder begins. -/

namespace Phrasebook

/-- What stands before a placeholder, and what stands behind it, is cut there as it is in the whole
text: no cut looks further than to the percent sign of the placeholder. -/
theorem Segmentation.around {text : Text} {before behind : List Cut} {p : Placeholder}
    (h : Segmentation text (before ++ .placeholder p :: behind)) :
    ∃ front back, text = front ++ (p.written ++ back) ∧ Segmentation front before ∧
      Segmentation back behind := by
  induction before generalizing text with
  | nil =>
    cases h with
    | @cons _ back _ _ hback => exact ⟨[], back, rfl, .nil, hback⟩
  | cons cut before ih =>
    cases h with
    | cons hleads hcuts =>
      obtain ⟨front, back, rfl, hfront, hback⟩ := ih hcuts
      exact ⟨cut.source ++ front, back, (List.append_assoc _ _ _).symm,
        .cons hleads.of_append_written hfront, hback⟩

/-- What is wrong with a cut that is a malformed inline plural. -/
def Cut.malformed? : Cut → Option InlinePlural.Malformed
  | .placeholder (.inline body) =>
    match InlinePlural.parse body with
    | .error e => some e
    | .ok _ => none
  | _ => none

theorem Cut.malformed?_eq_some_iff {cut : Cut} {e : InlinePlural.Malformed} :
    cut.malformed? = some e ↔
      ∃ body, cut = .placeholder (.inline body) ∧ InlinePlural.parse body = .error e := by
  unfold malformed?
  constructor
  · intro h
    split at h
    · next body =>
      split at h
      · next hparse =>
        cases h
        exact ⟨body, rfl, hparse⟩
      · cases h
    · cases h
  · rintro ⟨body, rfl, hparse⟩
    simp only [hparse]

namespace Segment

/-- Where every piece stands for a segment, all of these are found. -/
theorem before_of_forall₂ {pieces : List Piece} {segments : List Segment}
    (h : List.Forall₂ (fun piece s => ofPiece piece = .ok s) pieces segments) :
    before pieces = (segments, none) := by
  induction h with
  | nil => rfl
  | cons hpiece _ ih => simp only [before, hpiece, ih]

/-- A piece that stands for no segment is the end, whatever stands behind it. -/
theorem before_append_of_error {pieces : List Piece} {segments : List Segment}
    (h : List.Forall₂ (fun piece s => ofPiece piece = .ok s) pieces segments) {piece : Piece}
    {e : InlinePlural.Malformed} (hpiece : ofPiece piece = .error e) (behind : List Piece) :
    before (pieces ++ piece :: behind) = (segments, some e) := by
  induction h with
  | nil => simp only [List.nil_append, before, hpiece]
  | cons hfirst _ ih => simp only [List.cons_append, before, hfirst, ih]

end Segment

namespace Template

/-- The leftmost malformed inline plural of a text begins at `place`, and `e` is what is wrong with
it. -/
def FailsAt (text : Text) (place : Nat) (e : InlinePlural.Malformed) : Prop :=
  ∃ before cut behind, Segmentation text (before ++ cut :: behind) ∧
    (before.flatMap Cut.source).length = place ∧ cut.malformed? = some e ∧
    ∀ cut ∈ before, cut.malformed? = none

variable {text : Text} {place : Nat} {e : InlinePlural.Malformed}

theorem exists_parse_error_iff :
    (∃ e, parse text = .error e) ↔ Piece.HasMalformed (Piece.scan text) := by
  constructor
  · rintro ⟨e, he⟩
    obtain ⟨before, body, behind, hscan, -, hparse⟩ := parse_eq_error_iff.mp he
    exact ⟨body, e, hscan ▸ List.mem_append_right _ List.mem_cons_self, hparse⟩
  · intro h
    obtain ⟨e, hfirst⟩ := h.exists_first
    exact ⟨e, parse_eq_error_iff.mpr hfirst⟩

/-- Without a malformed cut, a text parses. -/
theorem exists_parse_of_cuts {cuts : List Cut} (h : Segmentation text cuts)
    (hcuts : ∀ cut ∈ cuts, cut.malformed? = none) : ∃ t, parse text = .ok t := by
  cases hparse : parse text with
  | ok t => exact ⟨t, rfl⟩
  | error e =>
    obtain ⟨body, e', hmem, herror⟩ := exists_parse_error_iff.mp ⟨e, hparse⟩
    rw [h.scan_eq_foldr] at hmem
    have hnone := hcuts _ ((Merges.foldr_before cuts).placeholder_mem hmem)
    rw [Cut.malformed?_eq_some_iff.mpr ⟨body, rfl, herror⟩] at hnone
    cases hnone

/-- The text up to the place of the failure parses, and its pieces are those of the whole text
before the malformed placeholder, which is written at that place. -/
theorem FailsAt.exists_scan (h : FailsAt text place e) :
    ∃ t body behind, parse (text.take place) = .ok t ∧
      Piece.scan text =
        Piece.scan (text.take place) ++ .placeholder (.inline body) :: behind ∧
      (Placeholder.inline body).written <+: text.drop place ∧
      InlinePlural.parse body = .error e := by
  obtain ⟨before, cut, behind, hcuts, rfl, hcut, hbefore⟩ := h
  obtain ⟨body, rfl, herror⟩ := Cut.malformed?_eq_some_iff.mp hcut
  obtain ⟨front, back, rfl, hfront, -⟩ := hcuts.around
  rw [hfront.flatMap_source, List.take_left, List.drop_left]
  obtain ⟨t, ht⟩ := exists_parse_of_cuts hfront hbefore
  refine ⟨t, body, behind.foldr Cut.before [], ht, ?_, List.prefix_append _ _, herror⟩
  rw [hcuts.scan_eq_foldr, List.foldr_append, List.foldr_cons, Cut.before,
    Cut.foldr_before_placeholder, ← hfront.scan_eq_foldr]

theorem FailsAt.parse_eq (h : FailsAt text place e) : parse text = .error e := by
  obtain ⟨t, body, behind, ht, hscan, -, herror⟩ := h.exists_scan
  refine parse_eq_error_iff.mpr ⟨_, body, behind, hscan, fun body' hmem => ?_, herror⟩
  cases hparse : InlinePlural.parse body' with
  | ok plural => exact ⟨plural, rfl⟩
  | error e' =>
    obtain ⟨e'', hfails⟩ := exists_parse_error_iff.mpr ⟨body', e', hmem, hparse⟩
    rw [ht] at hfails
    cases hfails

/-- A text that does not parse has a leftmost malformed inline plural. -/
theorem exists_failsAt (h : parse text = .error e) : ∃ place, FailsAt text place e := by
  obtain ⟨cuts, hcuts⟩ := Segmentation.exists_cuts text
  cases hfirst : cuts.findSome? Cut.malformed? with
  | none =>
    obtain ⟨t, ht⟩ := exists_parse_of_cuts hcuts (List.findSome?_eq_none_iff.mp hfirst)
    rw [h] at ht
    cases ht
  | some e' =>
    obtain ⟨before, cut, behind, rfl, hcut, hbefore⟩ := List.findSome?_eq_some_iff.mp hfirst
    have hfails : FailsAt text (before.flatMap Cut.source).length e' :=
      ⟨before, cut, behind, hcuts, rfl, hcut, hbefore⟩
    have hsame := hfails.parse_eq
    rw [h] at hsame
    cases hsame
    exact ⟨_, hfails⟩

/-- Parsing a text piece by piece comes to the same as parsing it at once.  It fails if and only if
the pieces hold a malformed inline plural, with what is wrong with the leftmost one; the segments
that come before are then those of the text that ends where this placeholder begins.  Otherwise
there is one segment for each piece, and they are those of the template. -/
theorem parse_lazily (text : Text) :
    ((∃ e, parse text = .error e) ↔ Piece.HasMalformed (Piece.scan text)) ∧
    (∀ e, parse text = .error e ↔ Piece.FirstMalformed (Piece.scan text) e) ∧
    (∀ e, parse text = .error e ↔ ∃ place, FailsAt text place e) ∧
    (∀ place e, FailsAt text place e → ∃ t body, parse (text.take place) = .ok t ∧
      (Placeholder.inline body).written <+: text.drop place ∧
      InlinePlural.parse body = .error e ∧
      Segment.before (Piece.scan text) = (t.segments, some e)) ∧
    ∀ t, parse text = .ok t → Segment.before (Piece.scan text) = (t.segments, none) ∧
      List.Forall₂ (fun piece s => Segment.ofPiece piece = .ok s) (Piece.scan text) t.segments := by
  refine ⟨exists_parse_error_iff, fun e => parse_eq_error_iff,
    fun e => ⟨exists_failsAt, fun ⟨place, h⟩ => h.parse_eq⟩, fun place e h => ?_, fun t ht => ?_⟩
  · obtain ⟨t, body, behind, ht, hscan, hwritten, herror⟩ := h.exists_scan
    refine ⟨t, body, ht, hwritten, herror, ?_⟩
    rw [hscan]
    exact Segment.before_append_of_error (parse_eq_ok_iff.mp ht).2
      (Segment.ofPiece_eq_error_iff.mpr ⟨body, rfl, herror⟩) behind
  · obtain ⟨-, hsegments⟩ := parse_eq_ok_iff.mp ht
    exact ⟨Segment.before_of_forall₂ hsegments, hsegments⟩

open Text (lit)

set_option maxRecDepth 4000 in
/-- A percent sign that stands alone before the placeholder that is malformed, and a malformed one
behind it that is not looked at. -/
theorem parse_lazily_lone_percent :
    let text := lit "%<n>%5%<\x7b\x7d>%<\x7b>"
    let t : Template := ⟨lit "%<n>%5", [.named (lit "n") none, .literal (lit "%5")]⟩
    let e : InlinePlural.Malformed := ⟨lit "\x7b\x7d", 1, .missingCountKey⟩
    FailsAt text 6 e ∧ parse text = .error e ∧ parse (text.take 6) = .ok t ∧
      Segment.before (Piece.scan text) = (t.segments, some e) := by
  intro text t e
  have hcuts : Segmentation text
      ([.placeholder (.named (lit "n") none), .lone, .run (lit "5")] ++
        .placeholder (.inline (lit "\x7b\x7d")) :: [.lone, .run (lit "<\x7b>")]) :=
    .of_first? (by simp only [text]; cbv) (.of_first? (by cbv) (.of_first? (by cbv)
      (.of_first? (by cbv) (.of_first? (by cbv) (.of_first? (by cbv) .nil)))))
  have hfails : FailsAt text 6 e := ⟨_, _, _, hcuts, by cbv, by simp only [e]; cbv, by decide⟩
  have ht : parse (text.take 6) = .ok t := by
    simp only [text, t]
    cbv
  obtain ⟨-, -, hplace, hbefore, -⟩ := parse_lazily text
  obtain ⟨t', body, ht', -, -, hsegments⟩ := hbefore 6 e hfails
  rw [ht] at ht'
  cases ht'
  exact ⟨hfails, (hplace e).mpr ⟨6, hfails⟩, ht, hsegments⟩

end Template

end Phrasebook
