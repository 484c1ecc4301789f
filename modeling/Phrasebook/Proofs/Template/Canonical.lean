import Phrasebook.Locale.Known
import Phrasebook.Proofs.Engine.Memory
import Phrasebook.Proofs.Template.Segmentation

/-! The canonical text of a template: its pieces written again, with two percent signs for each one
that is literal.  It has the same pieces, whatever stands beside a percent sign that was alone. -/

namespace Phrasebook

open Text (lit)

/-- The text with every percent sign written twice. -/
def Text.doubled (text : Text) : Text :=
  text.flatMap fun c => if c = '%'.toNat then [c, c] else [c]

namespace Piece

/-- A piece as a text: literal text with its percent signs doubled, a placeholder as it is
written. -/
def source : Piece → Text
  | .literal text => text.doubled
  | .placeholder p => p.written

def unscan (pieces : List Piece) : Text := pieces.flatMap source

/-- The text that is written back from the pieces of a text. -/
def canonical (text : Text) : Text := unscan (scan text)

end Piece

namespace Text

theorem doubled_append (text text' : Text) :
    (text ++ text').doubled = text.doubled ++ text'.doubled := List.flatMap_append

theorem doubled_singleton {c : Nat} (h : c ≠ '%'.toNat) : doubled [c] = [c] := by
  rw [doubled, List.flatMap_singleton, if_neg h]

end Text

namespace Piece

theorem unscan_prepend (text : Text) (pieces : List Piece) :
    unscan (prepend text pieces) = text.doubled ++ unscan pieces := by
  cases pieces with
  | nil => rfl
  | cons piece pieces =>
    cases piece with
    | literal text' => simp [prepend, unscan, source, Text.doubled_append]
    | placeholder p => rfl

/-- Doubled text is scanned as the text itself. -/
theorem scan_doubled_append {text : Text} (hne : text ≠ []) (rest : Text) :
    scan (text.doubled ++ rest) = prepend text (scan rest) := by
  have hsingle : ∀ (c : Nat) (rest : Text),
      scan (Text.doubled [c] ++ rest) = prepend [c] (scan rest) := by
    intro c rest
    by_cases hc : c = '%'.toNat
    · subst hc
      exact scan_pair rest
    · rw [Text.doubled_singleton hc]
      exact scan_cons_of_ne hc rest
  induction text with
  | nil => exact absurd rfl hne
  | cons c text ih =>
    rw [← List.singleton_append, Text.doubled_append, List.append_assoc, hsingle]
    by_cases hnil : text = []
    · subst hnil
      rfl
    · rw [ih hnil, prepend_prepend]

end Piece

/-! ### What stands behind a key -/

theorem Conversion.WellFormed.ne_percent {spec : Conversion} (h : spec.WellFormed) :
    ∀ c ∈ spec.written, c ≠ '%'.toNat := by
  have hdigit : ∀ c, Text.isDigit c → c ≠ '%'.toNat := by
    rintro c hc rfl
    exact absurd hc (by decide)
  intro c hc
  simp only [written, List.mem_append, List.mem_map, List.mem_singleton] at hc
  rcases hc with ((⟨flag, -, rfl⟩ | hwidth) | hprecision) | rfl
  · cases flag <;> decide
  · exact hdigit c (h.width c hwidth)
  · cases hdigits : spec.precision with
    | none =>
      rw [hdigits] at hprecision
      cases hprecision
    | some digits =>
      rw [hdigits] at hprecision
      rcases List.mem_cons.mp hprecision with rfl | hmem
      · decide
      · exact hdigit c (h.precision digits hdigits c hmem)
  · cases spec.letter <;> decide

/-- Whether a placeholder can stand before a text is settled before the first percent sign. -/
theorem Placeholder.Fits.congr {p : Placeholder} {rest rest' : Text} (h : p.Fits rest)
    (heq : rest'.takeWhile (· ≠ '%'.toNat) = rest.takeWhile (· ≠ '%'.toNat)) : p.Fits rest' := by
  cases p with
  | named key spec =>
    cases spec with
    | some spec => exact h
    | none =>
      refine ⟨h.1, ?_⟩
      rintro spec behind hspec rfl
      have hwritten : ∀ c ∈ spec.written, decide (c ≠ '%'.toNat) = true :=
        fun c hc => decide_eq_true (hspec.ne_percent c hc)
      rw [List.takeWhile_append_of_pos hwritten] at heq
      have hrest := List.takeWhile_append_dropWhile (p := (· ≠ '%'.toNat)) (l := rest)
      rw [← heq, List.append_assoc] at hrest
      exact h.2 spec _ hspec hrest.symm
  | positional spec => exact h
  | value key => exact h
  | reference count rules => exact h
  | inline body => exact h

namespace Piece

/-- Up to the first percent sign, the canonical text is the text. -/
theorem takeWhile_canonical (text : Text) :
    (canonical text).takeWhile (· ≠ '%'.toNat) = text.takeWhile (· ≠ '%'.toNat) := by
  induction text with
  | nil => rw [canonical, scan_nil]; rfl
  | cons c text ih =>
    by_cases hc : c = '%'.toNat
    · subst hc
      obtain ⟨cut, rest, hfirst⟩ := Cut.exists_first? (List.cons_ne_nil '%'.toNat text)
      obtain ⟨hleads, htext⟩ := Cut.first?_eq_some_iff.mp hfirst
      rw [htext, canonical, Cut.scan_source_append hleads]
      cases cut with
      | run text' =>
        obtain ⟨d, text', rfl⟩ := List.exists_cons_of_ne_nil hleads.1
        cases htext
        exact absurd rfl (hleads.2.1 _ (by simp))
      | pair => rw [Cut.before, unscan_prepend]; rfl
      | lone => rw [Cut.before, unscan_prepend]; rfl
      | placeholder p => rfl
    · rw [canonical, scan_cons_of_ne hc, unscan_prepend, Text.doubled_singleton hc]
      simp only [List.singleton_append, List.takeWhile_cons, decide_eq_true hc, if_true]
      exact congrArg (c :: ·) ih

end Piece

theorem Segmentation.scan_canonical {text : Text} {cuts : List Cut} (h : Segmentation text cuts) :
    Piece.scan (Piece.canonical text) = Piece.scan text := by
  induction h with
  | nil => rw [Piece.canonical, Piece.scan_nil]; exact Piece.scan_nil
  | @cons cut rest cuts hleads _ ih =>
    rw [Piece.canonical, Cut.scan_source_append hleads]
    have hliteral : ∀ text' ≠ [],
        Piece.scan (Piece.unscan (Piece.prepend text' (Piece.scan rest))) =
          Piece.prepend text' (Piece.scan rest) := by
      intro text' hne
      rw [Piece.unscan_prepend, Piece.scan_doubled_append hne]
      exact congrArg (Piece.prepend text') ih
    cases cut with
    | run text' => exact hliteral text' hleads.1
    | pair => exact hliteral _ (List.cons_ne_nil _ _)
    | lone => exact hliteral _ (List.cons_ne_nil _ _)
    | placeholder p =>
      have hfits : p.Fits (Piece.canonical rest) :=
        Placeholder.Fits.congr hleads (Piece.takeWhile_canonical rest)
      show Piece.scan (p.written ++ Piece.canonical rest) = .placeholder p :: Piece.scan rest
      rw [Piece.scan_written hfits, ih]

/-! ### What is rendered -/

/-- Only the segments of a template are rendered. -/
theorem Rendering.render_congr {σ : Type} {t t' : Template} (h : t.segments = t'.segments)
    (shelf : Shelf σ) (setting : Setting) (levels : Nat) :
    render shelf setting levels t = render shelf setting levels t' := by
  cases levels <;> simp only [render, h]

theorem Template.map_segments_parse (source : Text) :
    (parse source).map segments = (Piece.scan source).mapM Segment.ofPiece := by
  unfold parse
  cases (Piece.scan source).mapM Segment.ofPiece <;> rfl

/-- Templates with the same pieces are filled alike. -/
theorem Engine.evaluate_congr {source source' : Text}
    (h : Piece.scan source = Piece.scan source') (settings : Settings)
    (classifier : Plural.Classifier) (argument : Value) (locale : Option Text) :
    evaluate settings classifier source argument locale =
      evaluate settings classifier source' argument locale := by
  unfold evaluate Template.parse
  rw [h]
  cases (Piece.scan source').mapM Segment.ofPiece with
  | error e => rfl
  | ok segments =>
    have hsegments : Template.segments ⟨source, segments⟩ = Template.segments ⟨source', segments⟩ :=
      rfl
    exact congrArg (fun step => (Rendering.answer step ()).1)
      (Rendering.render_congr hsegments _ _ _)

/-- The canonical text has the pieces of the text and is its own canonical text.  Its template has
the same segments, or the same fault, and every engine fills it alike. -/
theorem Piece.canonical_round_trip (text : Text) :
    scan (canonical text) = scan text ∧ canonical (canonical text) = canonical text ∧
      (Template.parse (canonical text)).map Template.segments =
        (Template.parse text).map Template.segments ∧
      ∀ e : Engine, e.Reachable → ∀ (argument : Value) (locale : Option Text),
        (e.format (canonical text) argument locale).1 = (e.format text argument locale).1 := by
  obtain ⟨cuts, hcuts⟩ := Segmentation.exists_cuts text
  have hscan : scan (canonical text) = scan text := hcuts.scan_canonical
  refine ⟨hscan, congrArg unscan hscan, ?_, ?_⟩
  · rw [Template.map_segments_parse, Template.map_segments_parse, hscan]
  · intro e he argument locale
    rw [(Engine.format_eq_evaluate he.faithful _ argument locale).1,
      (Engine.format_eq_evaluate he.faithful _ argument locale).1]
    exact Engine.evaluate_congr hscan _ _ argument locale

/-- A percent sign that is alone is doubled, and a key without a conversion still has none before
doubled percent signs. -/
theorem Piece.canonical_round_trip_lone_percent :
    canonical (lit "5%, %<n>%%d") = lit "5%%, %<n>%%d" ∧
      scan (lit "5%%, %<n>%%d") = scan (lit "5%, %<n>%%d") ∧ Engine.usual.Reachable ∧
      (Engine.usual.format (lit "5%%, %<n>%%d") (.int 3) none).1 =
        (Engine.usual.format (lit "5%, %<n>%%d") (.int 3) none).1 := by
  have hcanonical : canonical (lit "5%, %<n>%%d") = lit "5%%, %<n>%%d" := by cbv
  have husual : Engine.usual.Reachable := .create _ _
  obtain ⟨hscan, -, -, hformat⟩ := canonical_round_trip (lit "5%, %<n>%%d")
  rw [hcanonical] at hscan hformat
  exact ⟨hcanonical, hscan, husual, hformat Engine.usual husual _ _⟩

end Phrasebook
