import Mathlib.Data.List.Forall2
import Phrasebook.Proofs.Template.Canonical

/-! Parsing.  A text fails to parse where the leftmost of its malformed inline plurals is.
Otherwise each placeholder becomes a segment that says what the placeholder says, and what stands
before and behind it parses by itself. -/

namespace Phrasebook

open Text (lit)

/-! ### The leftmost malformed inline plural -/

namespace Piece

/-- The pieces hold a malformed inline plural, and `e` is what is wrong with the leftmost one. -/
def FirstMalformed (pieces : List Piece) (e : InlinePlural.Malformed) : Prop :=
  ∃ before body behind, pieces = before ++ .placeholder (.inline body) :: behind ∧
    (∀ body', .placeholder (.inline body') ∈ before →
      ∃ plural, InlinePlural.parse body' = .ok plural) ∧
    InlinePlural.parse body = .error e

def HasMalformed (pieces : List Piece) : Prop :=
  ∃ body e, .placeholder (.inline body) ∈ pieces ∧ InlinePlural.parse body = .error e

end Piece

namespace Segment

theorem ofPiece_eq_error_iff {piece : Piece} {e : InlinePlural.Malformed} :
    ofPiece piece = .error e ↔
      ∃ body, piece = .placeholder (.inline body) ∧ InlinePlural.parse body = .error e := by
  constructor
  · intro h
    cases piece with
    | literal text => cases h
    | placeholder p =>
      cases p with
      | inline body =>
        refine ⟨body, rfl, ?_⟩
        rw [ofPiece, ofPlaceholder] at h
        cases hparse : InlinePlural.parse body with
        | ok plural =>
          rw [hparse] at h
          cases h
        | error e' =>
          rw [hparse] at h
          cases h
          rfl
      | _ => cases h
  · rintro ⟨body, rfl, hparse⟩
    rw [ofPiece, ofPlaceholder, hparse]
    rfl

theorem mapM_ofPiece_cons_of_ok {piece : Piece} {s : Segment} (h : ofPiece piece = .ok s)
    (pieces : List Piece) :
    (piece :: pieces).mapM ofPiece = (pieces.mapM ofPiece).map (s :: ·) := by
  rw [List.mapM_cons, h]
  cases pieces.mapM ofPiece <;> rfl

/-- The segments are what the pieces stand for, one by one. -/
theorem mapM_ofPiece_eq_ok_iff {pieces : List Piece} {segments : List Segment} :
    pieces.mapM ofPiece = .ok segments ↔
      List.Forall₂ (fun piece s => ofPiece piece = .ok s) pieces segments := by
  induction pieces generalizing segments with
  | nil => cases segments <;> simp [pure, Except.pure]
  | cons piece pieces ih =>
    constructor
    · intro h
      cases hpiece : ofPiece piece with
      | error e =>
        rw [List.mapM_cons, hpiece] at h
        cases h
      | ok s =>
        rw [mapM_ofPiece_cons_of_ok hpiece] at h
        cases hpieces : pieces.mapM ofPiece with
        | error e =>
          rw [hpieces] at h
          cases h
        | ok others =>
          rw [hpieces] at h
          cases h
          exact .cons hpiece (ih.mp hpieces)
    · intro h
      cases h with
      | cons hpiece hpieces =>
        rw [mapM_ofPiece_cons_of_ok hpiece, ih.mpr hpieces]
        rfl

/-- What stands around a segment comes from what stands around its piece. -/
theorem exists_piece_of_append {pieces : List Piece} {front back : List Segment} {s : Segment}
    (h : List.Forall₂ (fun piece s => ofPiece piece = .ok s) pieces (front ++ s :: back)) :
    ∃ before piece behind, pieces = before ++ piece :: behind ∧ ofPiece piece = .ok s ∧
      List.Forall₂ (fun piece s => ofPiece piece = .ok s) before front ∧
      List.Forall₂ (fun piece s => ofPiece piece = .ok s) behind back := by
  obtain ⟨piece, behind, hpiece, hbehind, hdrop⟩ :=
    List.forall₂_cons_right_iff.mp (List.forall₂_drop_append _ _ _ h)
  refine ⟨pieces.take front.length, piece, behind, ?_, hpiece,
    List.forall₂_take_append _ _ _ h, hbehind⟩
  rw [← hdrop, List.take_append_drop]

theorem firstMalformed_cons_iff {piece : Piece} {pieces : List Piece} {e : InlinePlural.Malformed} :
    Piece.FirstMalformed (piece :: pieces) e ↔ ofPiece piece = .error e ∨
      (∃ s, ofPiece piece = .ok s) ∧ Piece.FirstMalformed pieces e := by
  constructor
  · rintro ⟨before, body, behind, hpieces, hbefore, hparse⟩
    cases before with
    | nil =>
      obtain ⟨rfl, -⟩ := List.cons.inj hpieces
      exact .inl (ofPiece_eq_error_iff.mpr ⟨body, rfl, hparse⟩)
    | cons piece' before =>
      obtain ⟨rfl, hpieces'⟩ := List.cons.inj hpieces
      refine .inr ⟨?_, before, body, behind, hpieces',
        fun body' hmem => hbefore body' (List.mem_cons_of_mem _ hmem), hparse⟩
      cases hpiece : ofPiece piece with
      | ok s => exact ⟨s, rfl⟩
      | error e' =>
        obtain ⟨body', rfl, herror⟩ := ofPiece_eq_error_iff.mp hpiece
        obtain ⟨plural, hok⟩ := hbefore body' List.mem_cons_self
        rw [herror] at hok
        cases hok
  · rintro (herror | ⟨⟨s, hs⟩, before, body, behind, rfl, hbefore, hparse⟩)
    · obtain ⟨body, rfl, hparse⟩ := ofPiece_eq_error_iff.mp herror
      exact ⟨[], body, pieces, rfl, fun _ hmem => (nomatch hmem), hparse⟩
    · refine ⟨piece :: before, body, behind, rfl, fun body' hmem => ?_, hparse⟩
      rcases List.mem_cons.mp hmem with rfl | hmem
      · cases hparse' : InlinePlural.parse body' with
        | ok plural => exact ⟨plural, rfl⟩
        | error e' =>
          rw [ofPiece_eq_error_iff.mpr ⟨body', rfl, hparse'⟩] at hs
          cases hs
      · exact hbefore body' hmem

theorem mapM_ofPiece_eq_error_iff {pieces : List Piece} {e : InlinePlural.Malformed} :
    pieces.mapM ofPiece = .error e ↔ Piece.FirstMalformed pieces e := by
  induction pieces with
  | nil => simp [Piece.FirstMalformed, pure, Except.pure]
  | cons piece pieces ih =>
    rw [firstMalformed_cons_iff, ← ih]
    cases hpiece : ofPiece piece with
    | error e' => simp [List.mapM_cons, hpiece, bind, Except.bind]
    | ok s =>
      rw [mapM_ofPiece_cons_of_ok hpiece]
      cases pieces.mapM ofPiece <;> simp [Except.map]

end Segment

/-- Where an inline plural is malformed, there is a leftmost. -/
theorem Piece.HasMalformed.exists_first {pieces : List Piece} (h : HasMalformed pieces) :
    ∃ e, FirstMalformed pieces e := by
  obtain ⟨body, e, hbody, hparse⟩ := h
  induction pieces with
  | nil => cases hbody
  | cons piece pieces ih =>
    cases hpiece : Segment.ofPiece piece with
    | error e' => exact ⟨e', Segment.firstMalformed_cons_iff.mpr (.inl hpiece)⟩
    | ok s =>
      rcases List.mem_cons.mp hbody with rfl | hmem
      · rw [Segment.ofPiece_eq_error_iff.mpr ⟨body, rfl, hparse⟩] at hpiece
        cases hpiece
      · obtain ⟨e', hfirst⟩ := ih hmem
        exact ⟨e', Segment.firstMalformed_cons_iff.mpr (.inr ⟨⟨s, hpiece⟩, hfirst⟩)⟩

namespace Template

theorem parse_eq_ok_iff {source : Text} {t : Template} : parse source = .ok t ↔
    t.source = source ∧
      List.Forall₂ (fun piece s => Segment.ofPiece piece = .ok s) (Piece.scan source)
        t.segments := by
  obtain ⟨source', segments⟩ := t
  rw [← Segment.mapM_ofPiece_eq_ok_iff, parse]
  cases (Piece.scan source).mapM Segment.ofPiece with
  | error e => simp [Except.map]
  | ok segments' => simp [Except.map, eq_comm]

/-- The leftmost malformed inline plural is what is wrong with a text. -/
theorem parse_eq_error_iff {source : Text} {e : InlinePlural.Malformed} :
    parse source = .error e ↔ Piece.FirstMalformed (Piece.scan source) e := by
  rw [← Segment.mapM_ofPiece_eq_error_iff, parse]
  cases (Piece.scan source).mapM Segment.ofPiece <;> simp [Except.map]

end Template

/-! ### What stands around a placeholder -/

/-- A placeholder that can stand before a text can stand before the start of it. -/
theorem Placeholder.Fits.of_append {p : Placeholder} {text rest : Text}
    (h : p.Fits (text ++ rest)) : p.Fits text := by
  cases p with
  | named key spec =>
    cases spec with
    | some spec => exact h
    | none =>
      refine ⟨h.1, ?_⟩
      rintro spec behind hspec rfl
      exact h.2 spec (behind ++ rest) hspec (List.append_assoc _ _ _)
  | positional spec => exact h
  | value key => exact h
  | reference count rules => exact h
  | inline body => exact h

theorem Text.takeWhile_append_cons {c : Nat} (text rest : Text) :
    (text ++ c :: rest).takeWhile (· ≠ c) = text.takeWhile (· ≠ c) := by
  induction text with
  | nil => simp
  | cons d text ih =>
    rw [List.cons_append, List.takeWhile_cons, List.takeWhile_cons, ih]

/-- A text that is cut off before a placeholder begins with the same cut. -/
theorem Cut.Leads.of_append_written {cut : Cut} {text rest : Text} {p : Placeholder}
    (h : cut.Leads (text ++ (p.written ++ rest))) : cut.Leads text := by
  cases cut with
  | run run =>
    refine ⟨h.1, h.2.1, fun c hc => h.2.2 c ?_⟩
    rw [List.head?_append, Option.mem_def.mp hc]
    rfl
  | pair => trivial
  | placeholder q => exact Placeholder.Fits.of_append h
  | lone =>
    constructor
    · intro hhead
      refine h.1 ?_
      rw [List.head?_append, hhead]
      rfl
    · rintro q behind hfits rfl
      -- the percent sign of the placeholder settles what may follow the form
      have hfits' : q.Fits (behind ++ (p.written ++ rest)) :=
        hfits.congr (Text.takeWhile_append_cons behind _)
      exact h.2 q _ hfits' (List.append_assoc _ _ _)

/-- A placeholder behind literal text is one of the pieces without that text. -/
theorem Piece.exists_of_prepend_eq {text : Text} {pieces front back : List Piece} {p : Placeholder}
    (h : prepend text pieces = front ++ .placeholder p :: back) :
    ∃ front', pieces = front' ++ .placeholder p :: back ∧ prepend text front' = front := by
  cases pieces with
  | nil =>
    cases front with
    | nil => cases h
    | cons piece front => simp [prepend] at h
  | cons piece pieces =>
    cases piece with
    | literal text' =>
      cases front with
      | nil => cases h
      | cons piece front =>
        cases h
        exact ⟨.literal text' :: front, rfl, rfl⟩
    | placeholder q =>
      cases front with
      | nil => cases h
      | cons piece front =>
        obtain ⟨rfl, hpieces⟩ := List.cons.inj h
        refine ⟨front, hpieces, ?_⟩
        cases front with
        | nil => rfl
        | cons piece front =>
          cases hpieces
          rfl

/-- What stands before a placeholder, and what stands behind it, has its own pieces there. -/
theorem Segmentation.exists_around {text : Text} {cuts : List Cut} (h : Segmentation text cuts)
    {front back : List Piece} {p : Placeholder}
    (hscan : Piece.scan text = front ++ .placeholder p :: back) :
    ∃ before behind, text = before ++ (p.written ++ behind) ∧ p.Fits behind ∧
      Piece.scan before = front ∧ Piece.scan behind = back := by
  induction h generalizing front with
  | nil =>
    rw [Piece.scan_nil] at hscan
    simp at hscan
  | @cons cut rest cuts hleads _ ih =>
    rw [Cut.scan_source_append hleads] at hscan
    -- the cut is the placeholder, or the placeholder is behind it
    have hbehind {front' : List Piece} (hrest : Piece.scan rest = front' ++ .placeholder p :: back)
        (hfront : cut.before front' = front) :
        ∃ before behind, cut.source ++ rest = before ++ (p.written ++ behind) ∧ p.Fits behind ∧
          Piece.scan before = front ∧ Piece.scan behind = back := by
      obtain ⟨before, behind, rfl, hfits, rfl, hback⟩ := ih hrest
      refine ⟨cut.source ++ before, behind, (List.append_assoc _ _ _).symm, hfits, ?_, hback⟩
      rw [Cut.scan_source_append hleads.of_append_written, hfront]
    cases hliteral : cut.literal? with
    | some text =>
      rw [Cut.before_of_literal? hliteral] at hscan
      obtain ⟨front', hrest, hfront⟩ := Piece.exists_of_prepend_eq hscan
      exact hbehind hrest ((Cut.before_of_literal? hliteral front').trans hfront)
    | none =>
      cases cut with
      | placeholder q =>
        cases front with
        | nil =>
          cases hscan
          exact ⟨[], rest, rfl, hleads, Piece.scan_nil, rfl⟩
        | cons piece front =>
          obtain ⟨rfl, hrest⟩ := List.cons.inj hscan
          exact hbehind hrest rfl
      | run text => cases hliteral
      | pair => cases hliteral
      | lone => cases hliteral

/-! ### What a placeholder says -/

/-- The pattern has nothing but what the conversion says, and a point if and only if there is a
precision, which may be empty. -/
structure Conversion.Legible (spec : Conversion) : Prop where
  wellFormed : spec.WellFormed
  absent : spec.precision = none ↔ '.'.toNat ∉ spec.pattern
  present : ∀ digits, spec.precision = some digits ↔
    ∃ lead, '.'.toNat ∉ lead ∧ spec.pattern = lead ++ '.'.toNat :: digits ++ [spec.letter.character]

namespace Conversion

/-- What stands before the precision. -/
def lead (spec : Conversion) : Text := '%'.toNat :: (spec.flags.map Flag.character ++ spec.width)

theorem pattern_eq_lead_append (spec : Conversion) :
    spec.pattern = spec.lead ++ precisionText spec.precision ++ [spec.letter.character] := rfl

variable {spec : Conversion}

theorem WellFormed.point_not_mem_lead (h : spec.WellFormed) : '.'.toNat ∉ spec.lead := by
  unfold lead
  rw [List.mem_cons, List.mem_append, List.mem_map]
  rintro (hpercent | ⟨flag, -, hflag⟩ | hdigit)
  · exact absurd hpercent (by decide)
  · cases flag <;> exact absurd hflag (by decide)
  · exact absurd (h.width _ hdigit) (by decide)

theorem WellFormed.legible (h : spec.WellFormed) : spec.Legible := by
  have hlead := h.point_not_mem_lead
  have habsent : spec.precision = none ↔ '.'.toNat ∉ spec.pattern := by
    rw [pattern_eq_lead_append]
    cases hprecision : spec.precision with
    | none => simpa [precisionText] using ⟨hlead, spec.letter.ne_point.symm⟩
    | some digits => simp [precisionText]
  refine ⟨h, habsent, fun digits => ⟨fun hprecision => ?_, ?_⟩⟩
  · refine ⟨spec.lead, hlead, ?_⟩
    rw [pattern_eq_lead_append, hprecision]
    rfl
  · rintro ⟨lead', hlead', hpattern⟩
    cases hprecision : spec.precision with
    | none => exact absurd (by simp [hpattern]) (habsent.mp hprecision)
    | some digits' =>
      rw [pattern_eq_lead_append, hprecision] at hpattern
      have hsame : spec.lead ++ '.'.toNat :: digits' = lead' ++ '.'.toNat :: digits :=
        List.append_cancel_right hpattern
      -- both leads are what stands before the first point
      have hfirst {text : Text} (htext : '.'.toNat ∉ text) (rest : Text) :
          (text ++ '.'.toNat :: rest).takeWhile (· ≠ '.'.toNat) = text := by
        rw [Text.takeWhile_append_cons, List.takeWhile_eq_self_iff]
        exact fun c hc => decide_eq_true fun heq => htext (heq ▸ hc)
      have hleads : spec.lead = lead' := by
        rw [← hfirst hlead digits', hsame, hfirst hlead']
      rw [hleads] at hsame
      cases List.append_cancel_left hsame
      rfl

end Conversion

/-- The source of a placeholder is what its parts make, and they are what the placeholder asks
for. -/
def Segment.Content (s : Segment) : Prop :=
  match s with
  | .literal _ => True
  | .positional spec => s.source = spec.pattern ∧ spec.Legible
  | .named key (some spec) =>
    s.source = lit "%<" ++ key ++ lit ">" ++ spec.pattern.tail ∧ Placeholder.IsKey key ∧
      spec.Legible
  | .named key none =>
    s.source = lit "%<" ++ key ++ lit ">" ∧ Placeholder.IsKey key ∧
      (Option.getD none Conversion.plain).pattern = lit "%s"
  | .value key => s.source = lit "%\x7b" ++ key ++ lit "\x7d" ∧ Placeholder.IsKey key
  | .reference count rules =>
    s.source = lit "%\x7b" ++ count ++ lit ":" ++ rules ++ lit "\x7d" ∧
      Placeholder.IsKey count ∧ Placeholder.IsKey rules
  | .inline body plural =>
    s.source = lit "%<" ++ body ++ lit ">" ∧ InlinePlural.parse body = .ok plural

namespace Segment

theorem exists_placeholder {piece : Piece} {s : Segment} (h : ofPiece piece = .ok s)
    (hs : s.isLiteral = false) : ∃ p, piece = .placeholder p ∧ ofPlaceholder p = .ok s := by
  cases piece with
  | literal text =>
    cases h
    cases hs
  | placeholder p => exact ⟨p, rfl, h⟩

variable {p : Placeholder} {s : Segment}

theorem ofPlaceholder_eq_ok_iff : ofPlaceholder p = .ok s ↔ match p with
    | .positional spec => s = .positional spec
    | .named key spec => s = .named key spec
    | .value key => s = .value key
    | .reference count rules => s = .reference count rules
    | .inline body => ∃ plural, InlinePlural.parse body = .ok plural ∧ s = .inline body plural := by
  cases p with
  | inline body =>
    show (InlinePlural.parse body).map (inline body) = .ok s ↔
      ∃ plural, InlinePlural.parse body = .ok plural ∧ s = inline body plural
    cases InlinePlural.parse body with
    | error e => simp [Except.map]
    | ok plural => simp [Except.map, eq_comm]
  | _ => simp [ofPlaceholder, eq_comm]

theorem source_eq_written (h : ofPlaceholder p = .ok s) : s.source = p.written := by
  rw [ofPlaceholder_eq_ok_iff] at h
  cases p with
  | inline body =>
    obtain ⟨plural, -, rfl⟩ := h
    rfl
  | _ => rw [h]; rfl

theorem content_of_fits {rest : Text} (h : ofPlaceholder p = .ok s) (hp : p.Fits rest) :
    s.Content := by
  have hsource := source_eq_written h
  rw [ofPlaceholder_eq_ok_iff] at h
  cases p with
  | positional spec =>
    subst h
    exact ⟨rfl, Conversion.WellFormed.legible hp⟩
  | named key spec =>
    subst h
    cases spec with
    | none => exact ⟨by rw [hsource]; simp [Placeholder.written, Placeholder.form, lit], hp.1, rfl⟩
    | some spec =>
      refine ⟨?_, hp.1, hp.2.legible⟩
      rw [hsource]
      simp [Placeholder.written, Placeholder.form, Conversion.pattern, lit]
  | value key =>
    subst h
    exact ⟨by rw [hsource]; simp [Placeholder.written, Placeholder.form, lit], hp⟩
  | reference count rules =>
    subst h
    exact ⟨by rw [hsource]; simp [Placeholder.written, Placeholder.form, lit], hp⟩
  | inline body =>
    obtain ⟨plural, hparse, rfl⟩ := h
    exact ⟨by rw [hsource]; simp [Placeholder.written, Placeholder.form, lit], hparse⟩

end Segment

/-- Parsing keeps what placeholders say and where they stand.  The source of each is in the text,
between a text that parses to the segments before it and one that parses to those behind it.  It is
rebuilt from the parts of the placeholder, and by itself it parses to the same placeholder. -/
theorem Template.parse_keeps_content {text : Text} {t : Template} (h : parse text = .ok t)
    {front back : List Segment} {s : Segment} (hsegments : t.segments = front ++ s :: back)
    (hs : s.isLiteral = false) :
    (∃ before behind, text = before ++ s.source ++ behind ∧
      parse before = .ok ⟨before, front⟩ ∧ parse behind = .ok ⟨behind, back⟩) ∧
    parse s.source = .ok ⟨s.source, [s]⟩ ∧ s.Content := by
  obtain ⟨-, hpieces⟩ := parse_eq_ok_iff.mp h
  rw [hsegments] at hpieces
  obtain ⟨pieces, piece, pieces', hscan, hpiece, hfront, hback⟩ :=
    Segment.exists_piece_of_append hpieces
  obtain ⟨p, rfl, hp⟩ := Segment.exists_placeholder hpiece hs
  obtain ⟨cuts, hcuts⟩ := Segmentation.exists_cuts text
  obtain ⟨before, behind, htext, hfits, hbefore, hbehind⟩ := hcuts.exists_around hscan
  subst hbefore hbehind
  have hsource := Segment.source_eq_written hp
  refine ⟨⟨before, behind, ?_, parse_eq_ok_iff.mpr ⟨rfl, hfront⟩, parse_eq_ok_iff.mpr ⟨rfl, hback⟩⟩,
    parse_eq_ok_iff.mpr ⟨rfl, ?_⟩, Segment.content_of_fits hp hfits⟩
  · rw [htext, hsource, List.append_assoc]
  · have halone : Piece.scan (p.written ++ []) = .placeholder p :: Piece.scan [] :=
      Piece.scan_written hfits.of_append
    rw [List.append_nil, Piece.scan_nil] at halone
    rw [hsource, halone]
    exact .cons hp .nil

/-- A key without a conversion before a percent sign, and the same key with an empty precision. -/
theorem Template.parse_keeps_content_empty_precision :
    let s : Segment := .named (lit "n") (some ⟨[], [], some [], .d⟩)
    let front : List Segment := [.named (lit "n") none, .literal (lit "%5")]
    let back : List Segment := [.literal (lit "!")]
    parse (lit "%<n>%5%<n>.d!") = .ok ⟨lit "%<n>%5%<n>.d!", front ++ s :: back⟩ ∧
      s.isLiteral = false ∧
      (∃ before behind, lit "%<n>%5%<n>.d!" = before ++ s.source ++ behind ∧
        parse before = .ok ⟨before, front⟩ ∧ parse behind = .ok ⟨behind, back⟩) ∧
      parse s.source = .ok ⟨s.source, [s]⟩ ∧ s.Content := by
  intro s front back
  have hparse : parse (lit "%<n>%5%<n>.d!") = .ok ⟨lit "%<n>%5%<n>.d!", front ++ s :: back⟩ := by
    cbv
  exact ⟨hparse, rfl, parse_keeps_content hparse rfl rfl⟩

end Phrasebook
