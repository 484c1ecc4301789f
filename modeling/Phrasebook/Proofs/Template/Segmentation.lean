import Phrasebook.Proofs.Template.Placeholder
import Phrasebook.Template.Piece

/-! How a text is cut from left to right, and how the pieces of a text come from its cuts: a
placeholder by itself, and what stands between two placeholders as one literal text. -/

namespace Phrasebook

/-! ### One step of the scan -/

namespace Piece

/-- The pieces with literal text before them. -/
def prepend (text : Text) : List Piece → List Piece
  | .literal text' :: pieces => .literal (text ++ text') :: pieces
  | pieces => .literal text :: pieces

theorem push_eq_prepend (c : Nat) (pieces : List Piece) : push c pieces = prepend [c] pieces := by
  cases pieces with
  | nil => rfl
  | cons piece pieces => cases piece <;> rfl

theorem prepend_prepend (text text' : Text) (pieces : List Piece) :
    prepend text (prepend text' pieces) = prepend (text ++ text') pieces := by
  cases pieces with
  | nil => rfl
  | cons piece pieces =>
    cases piece with
    | literal text'' => simp [prepend]
    | placeholder p => rfl

theorem scan_nil : scan [] = [] := by
  rw [scan]

theorem scan_cons_of_ne {c : Nat} (hc : c ≠ '%'.toNat) (text : Text) :
    scan (c :: text) = prepend [c] (scan text) := by
  cases text with
  | nil =>
    rw [scan_nil, scan]
    rfl
  | cons d text => rw [scan, if_neg hc, push_eq_prepend]

theorem scan_append {run : Text} (hne : run ≠ []) (hrun : ∀ c ∈ run, c ≠ '%'.toNat) (text : Text) :
    scan (run ++ text) = prepend run (scan text) := by
  induction run with
  | nil => exact absurd rfl hne
  | cons c run ih =>
    obtain ⟨hc, hrun⟩ := List.forall_mem_cons.mp hrun
    rw [List.cons_append, scan_cons_of_ne hc]
    cases run with
    | nil => rfl
    | cons d run =>
      rw [ih (List.cons_ne_nil d run) hrun, prepend_prepend]
      rfl

theorem scan_pair (text : Text) :
    scan ('%'.toNat :: '%'.toNat :: text) = prepend ['%'.toNat] (scan text) := by
  rw [scan, if_pos rfl, if_pos rfl, push_eq_prepend]

theorem scan_written {p : Placeholder} {rest : Text} (h : p.Fits rest) :
    scan (p.written ++ rest) = .placeholder p :: scan rest := by
  obtain ⟨d, text, htext, hd⟩ := Placeholder.exists_form_append h
  have hread := Placeholder.read?_form h
  rw [htext] at hread
  unfold Placeholder.written
  rw [List.cons_append, htext, scan, if_pos rfl, if_neg hd]
  split
  · next found =>
    rw [hread] at found
    cases found
    rfl
  · next hnone =>
    rw [hread] at hnone
    cases hnone

theorem scan_lone {text : Text} (hpair : text.head? ≠ some '%'.toNat)
    (hnone : Placeholder.read? text = none) :
    scan ('%'.toNat :: text) = prepend ['%'.toNat] (scan text) := by
  cases text with
  | nil =>
    rw [scan_nil, scan]
    rfl
  | cons d text =>
    have hd : d ≠ '%'.toNat := fun h => hpair (by rw [h, List.head?_cons])
    rw [scan, if_pos rfl, if_neg hd]
    split
    · next found =>
      rw [hnone] at found
      cases found
    · exact push_eq_prepend _ _

end Piece

/-! ### Cuts -/

/-- A part of a text: a run without percent signs, two percent signs, a placeholder, or a percent
sign that begins none. -/
inductive Cut where
  | run (text : Text)
  | pair
  | placeholder (p : Placeholder)
  | lone

namespace Cut

def source : Cut → Text
  | run text => text
  | pair => ['%'.toNat, '%'.toNat]
  | placeholder p => p.written
  | lone => ['%'.toNat]

/-- The literal text of a cut that is no placeholder. -/
def literal? : Cut → Option Text
  | run text => some text
  | pair => some ['%'.toNat]
  | placeholder _ => none
  | lone => some ['%'.toNat]

/-- The cut is the first of a text that goes on with `rest`.  A run is the longest, and where a
placeholder is written no percent sign stands alone. -/
def Leads (cut : Cut) (rest : Text) : Prop :=
  match cut with
  | run text => text ≠ [] ∧ (∀ c ∈ text, c ≠ '%'.toNat) ∧ ∀ c ∈ rest.head?, c = '%'.toNat
  | pair => True
  | placeholder p => p.Fits rest
  | lone => rest.head? ≠ some '%'.toNat ∧
      ∀ (p : Placeholder) (rest' : Text), p.Fits rest' → rest ≠ p.form ++ rest'

end Cut

/-- The cuts of a text from left to right. -/
inductive Segmentation : Text → List Cut → Prop
  | nil : Segmentation [] []
  | cons {cut : Cut} {rest : Text} {cuts : List Cut} : cut.Leads rest → Segmentation rest cuts →
      Segmentation (cut.source ++ rest) (cut :: cuts)

/-- Each placeholder is a piece, and each longest group of other cuts is one literal text. -/
inductive Merges : List Cut → List Piece → Prop
  | nil : Merges [] []
  | placeholder {p : Placeholder} {cuts : List Cut} {pieces : List Piece} : Merges cuts pieces →
      Merges (.placeholder p :: cuts) (.placeholder p :: pieces)
  | literal {group cuts : List Cut} {texts : List Text} {pieces : List Piece} : group ≠ [] →
      group.map Cut.literal? = texts.map some → (∀ cut ∈ cuts.head?, cut.literal? = none) →
      Merges cuts pieces → Merges (group ++ cuts) (.literal texts.flatten :: pieces)

namespace Cut

/-- The cut that a text begins with, and what follows it. -/
def first? (text : Text) : Option (Cut × Text) :=
  match text with
  | [] => none
  | c :: rest =>
    if c ≠ '%'.toNat then
      some (run (text.takeWhile (· ≠ '%'.toNat)), text.dropWhile (· ≠ '%'.toNat))
    else if rest.head? = some '%'.toNat then some (pair, rest.tail)
    else match Placeholder.read? rest with
      | some (p, behind) => some (placeholder p, behind)
      | none => some (lone, rest)

theorem run_leads_iff {text rest : Text} : (run text).Leads rest ↔ text ≠ [] ∧
    (∀ c ∈ text, decide (c ≠ '%'.toNat)) ∧ Text.Stops (· ≠ '%'.toNat) rest := by
  unfold Leads Text.Stops
  simp only [decide_eq_true_eq, decide_eq_false_iff_not, not_not]

theorem first?_eq_some_iff {text rest : Text} {cut : Cut} :
    first? text = some (cut, rest) ↔ cut.Leads rest ∧ text = cut.source ++ rest := by
  constructor
  · intro h
    unfold first? at h
    split at h
    · cases h
    · next c text =>
      split at h
      · next hc =>
        cases h
        obtain ⟨hrun, hstops, htext⟩ :=
          (@Text.takeWhile_dropWhile_eq_iff (· ≠ '%'.toNat) (c :: text) _ _).mp ⟨rfl, rfl⟩
        refine ⟨run_leads_iff.mpr ⟨?_, hrun, hstops⟩, htext⟩
        rw [List.takeWhile_cons, if_pos (decide_eq_true hc)]
        exact List.cons_ne_nil _ _
      · next hc =>
        obtain rfl := not_not.mp hc
        split at h
        · next hpair =>
          obtain ⟨behind, rfl⟩ := List.head?_eq_some_iff.mp hpair
          cases h
          exact ⟨trivial, rfl⟩
        · next hpair =>
          split at h
          · next p behind hread =>
            obtain ⟨hfits, rfl⟩ := Placeholder.read?_eq_some_iff.mp hread
            cases h
            exact ⟨hfits, rfl⟩
          · next hnone =>
            cases h
            exact ⟨⟨hpair, Placeholder.read?_eq_none_iff.mp hnone⟩, rfl⟩
  · rintro ⟨hleads, rfl⟩
    cases cut with
    | run text =>
      obtain ⟨hne, hrun, hstops⟩ := run_leads_iff.mp hleads
      obtain ⟨htake, hdrop⟩ := Text.takeWhile_dropWhile_eq_iff.mpr ⟨hrun, hstops, rfl⟩
      obtain ⟨c, text, rfl⟩ := List.exists_cons_of_ne_nil hne
      have hc : c ≠ '%'.toNat := hleads.2.1 c (by simp)
      rw [List.cons_append] at htake hdrop
      unfold source first?
      simp only [List.cons_append, if_pos hc, htake, hdrop]
    | pair => rfl
    | placeholder p =>
      obtain ⟨c, text, htext, hc⟩ := Placeholder.exists_form_append hleads
      have hread := Placeholder.read?_form hleads
      have hpair : (p.form ++ rest).head? ≠ some '%'.toNat := by
        rw [htext]
        simpa using hc
      unfold source Placeholder.written first?
      simp only [List.cons_append, ne_eq, not_true_eq_false, if_false, if_neg hpair, hread]
    | lone =>
      obtain ⟨hpair, hnone⟩ := hleads
      have hread := Placeholder.read?_eq_none_iff.mpr hnone
      unfold source first?
      simp only [List.singleton_append, ne_eq, not_true_eq_false, if_false, if_neg hpair, hread]

theorem source_ne_nil {cut : Cut} {rest : Text} (h : cut.Leads rest) : cut.source ≠ [] := by
  cases cut with
  | run text => exact h.1
  | pair => exact List.cons_ne_nil _ _
  | placeholder p => exact List.cons_ne_nil _ _
  | lone => exact List.cons_ne_nil _ _

theorem exists_first? {text : Text} (h : text ≠ []) :
    ∃ cut rest, first? text = some (cut, rest) := by
  obtain ⟨c, text, rfl⟩ := List.exists_cons_of_ne_nil h
  unfold first?
  simp only
  split
  · exact ⟨_, _, rfl⟩
  · split
    · exact ⟨_, _, rfl⟩
    · split
      · exact ⟨_, _, rfl⟩
      · exact ⟨_, _, rfl⟩

end Cut

namespace Segmentation

theorem of_first? {text rest : Text} {cut : Cut} {cuts : List Cut}
    (h : Cut.first? text = some (cut, rest)) (hrest : Segmentation rest cuts) :
    Segmentation text (cut :: cuts) := by
  obtain ⟨hleads, rfl⟩ := Cut.first?_eq_some_iff.mp h
  exact .cons hleads hrest

/-- Every text has a segmentation. -/
theorem exists_cuts (text : Text) : ∃ cuts, Segmentation text cuts := by
  induction hlength : text.length using Nat.strong_induction_on generalizing text with
  | _ n ih =>
    by_cases hnil : text = []
    · subst hnil
      exact ⟨[], .nil⟩
    · obtain ⟨cut, rest, hfirst⟩ := Cut.exists_first? hnil
      obtain ⟨hleads, rfl⟩ := Cut.first?_eq_some_iff.mp hfirst
      have hpos := List.length_pos_iff.mpr (Cut.source_ne_nil hleads)
      have hlt : rest.length < n := by
        rw [← hlength, List.length_append]
        omega
      obtain ⟨cuts, hcuts⟩ := ih rest.length hlt rest rfl
      exact ⟨cut :: cuts, .cons hleads hcuts⟩

/-- No text has two segmentations. -/
theorem unique {text : Text} {cuts cuts' : List Cut} (h : Segmentation text cuts)
    (h' : Segmentation text cuts') : cuts = cuts' := by
  induction h generalizing cuts' with
  | nil =>
    generalize htext : ([] : Text) = text at h'
    cases h' with
    | nil => rfl
    | cons hleads' _ =>
      exact absurd (List.append_eq_nil_iff.mp htext.symm).1 (Cut.source_ne_nil hleads')
  | @cons cut rest cuts hleads _ ih =>
    generalize htext : cut.source ++ rest = text at h'
    cases h' with
    | nil => exact absurd (List.append_eq_nil_iff.mp htext).1 (Cut.source_ne_nil hleads)
    | cons hleads' h' =>
      have hfirst := Cut.first?_eq_some_iff.mpr ⟨hleads, rfl⟩
      rw [htext, Cut.first?_eq_some_iff.mpr ⟨hleads', rfl⟩] at hfirst
      cases hfirst
      rw [ih h']

theorem flatMap_source {text : Text} {cuts : List Cut} (h : Segmentation text cuts) :
    cuts.flatMap Cut.source = text := by
  induction h with
  | nil => rfl
  | cons _ _ ih => rw [List.flatMap_cons, ih]

/-- A percent sign that stands alone hides no placeholder. -/
theorem lone_ne_form {text : Text} {before behind : List Cut}
    (h : Segmentation text (before ++ .lone :: behind)) (p : Placeholder) (rest : Text)
    (hfits : p.Fits rest) : behind.flatMap Cut.source ≠ p.form ++ rest := by
  generalize hcuts : before ++ .lone :: behind = cuts at h
  induction h generalizing before with
  | nil => exact absurd hcuts (by simp)
  | cons hleads h ih =>
    cases before with
    | nil =>
      cases hcuts
      rw [h.flatMap_source]
      exact hleads.2 p rest hfits
    | cons cut before =>
      cases hcuts
      exact ih rfl

end Segmentation

/-! ### Pieces -/

namespace Cut

/-- The pieces of a cut before the pieces of what follows it. -/
def before (cut : Cut) (pieces : List Piece) : List Piece :=
  match cut with
  | placeholder p => .placeholder p :: pieces
  | run text => Piece.prepend text pieces
  | pair => Piece.prepend ['%'.toNat] pieces
  | lone => Piece.prepend ['%'.toNat] pieces

theorem scan_source_append {cut : Cut} {rest : Text} (h : cut.Leads rest) :
    Piece.scan (cut.source ++ rest) = cut.before (Piece.scan rest) := by
  cases cut with
  | run text => exact Piece.scan_append h.1 h.2.1 rest
  | pair => exact Piece.scan_pair rest
  | placeholder p => exact Piece.scan_written h
  | lone => exact Piece.scan_lone h.1 (Placeholder.read?_eq_none_iff.mpr h.2)

theorem before_of_literal? {cut : Cut} {text : Text} (h : cut.literal? = some text)
    (pieces : List Piece) : cut.before pieces = Piece.prepend text pieces := by
  cases cut with
  | run text' => cases h; rfl
  | pair => cases h; rfl
  | placeholder p => cases h
  | lone => cases h; rfl

/-- No literal text reaches over a placeholder. -/
theorem before_append_placeholder (cut : Cut) (front : List Piece) (p : Placeholder)
    (back : List Piece) : cut.before (front ++ .placeholder p :: back) =
      cut.before front ++ .placeholder p :: back := by
  cases front with
  | nil => cases cut <;> rfl
  | cons piece front => cases cut <;> cases piece <;> rfl

theorem foldr_before_placeholder (cuts : List Cut) (p : Placeholder) (back : List Piece) :
    cuts.foldr before (.placeholder p :: back) =
      cuts.foldr before [] ++ .placeholder p :: back := by
  induction cuts with
  | nil => rfl
  | cons cut cuts ih => rw [List.foldr_cons, ih, before_append_placeholder, List.foldr_cons]

end Cut

theorem Segmentation.scan_eq_foldr {text : Text} {cuts : List Cut} (h : Segmentation text cuts) :
    Piece.scan text = cuts.foldr Cut.before [] := by
  induction h with
  | nil => exact Piece.scan_nil
  | cons hleads _ ih => rw [Cut.scan_source_append hleads, ih, List.foldr_cons]

namespace Merges

/-- Literal text before a placeholder, or before nothing, is a literal text by itself. -/
theorem prepend_eq {cuts : List Cut} {pieces : List Piece} (h : Merges cuts pieces)
    (hcuts : ∀ cut ∈ cuts.head?, cut.literal? = none) (text : Text) :
    Piece.prepend text pieces = .literal text :: pieces := by
  cases h with
  | nil => rfl
  | placeholder _ => rfl
  | @literal group _ texts _ hne hgroup _ _ =>
    obtain ⟨cut, group, rfl⟩ := List.exists_cons_of_ne_nil hne
    have hcut : cut.literal? = none := hcuts cut rfl
    obtain ⟨text', texts, rfl, htext, -⟩ := List.map_eq_cons_iff.mp hgroup.symm
    rw [hcut] at htext
    cases htext

theorem cons_literal {cut : Cut} {text : Text} {cuts : List Cut} {pieces : List Piece}
    (hcut : cut.literal? = some text) (h : Merges cuts pieces) :
    Merges (cut :: cuts) (Piece.prepend text pieces) := by
  by_cases hcuts : ∀ cut ∈ cuts.head?, cut.literal? = none
  · rw [h.prepend_eq hcuts]
    have hsingle := @Merges.literal [cut] cuts [text] pieces (by simp) (by simp [hcut]) hcuts h
    simpa using hsingle
  · cases h with
    | nil => exact absurd (fun _ hmem => nomatch hmem) hcuts
    | placeholder _ => exact absurd (fun _ hmem => by cases hmem; rfl) hcuts
    | @literal group cuts texts pieces hne hgroup hbehind h =>
      exact @Merges.literal (cut :: group) cuts (text :: texts) pieces (by simp)
        (by simp [hcut, hgroup]) hbehind h

/-- The pieces that come from cuts one by one are the cuts merged. -/
theorem foldr_before (cuts : List Cut) : Merges cuts (cuts.foldr Cut.before []) := by
  induction cuts with
  | nil => exact .nil
  | cons cut cuts ih =>
    rw [List.foldr_cons]
    cases hcut : cut.literal? with
    | some text =>
      rw [Cut.before_of_literal? hcut]
      exact ih.cons_literal hcut
    | none =>
      cases cut with
      | placeholder p => exact .placeholder ih
      | run text => cases hcut
      | pair => cases hcut
      | lone => cases hcut

theorem foldr_before_append {group : List Cut} {texts : List Text} (hne : group ≠ [])
    (hgroup : group.map Cut.literal? = texts.map some) (cuts : List Cut) :
    (group ++ cuts).foldr Cut.before [] =
      Piece.prepend texts.flatten (cuts.foldr Cut.before []) := by
  induction group generalizing texts with
  | nil => exact absurd rfl hne
  | cons cut group ih =>
    obtain ⟨text, texts, rfl, hcut, hgroup⟩ := List.map_eq_cons_iff.mp hgroup.symm
    rw [List.cons_append, List.foldr_cons, Cut.before_of_literal? hcut.symm]
    by_cases hnil : group = []
    · subst hnil
      obtain rfl := List.map_eq_nil_iff.mp hgroup
      simp
    · rw [ih hnil hgroup.symm, Piece.prepend_prepend, List.flatten_cons]

/-- Cuts merge in one way only. -/
theorem unique {cuts : List Cut} {pieces : List Piece} (h : Merges cuts pieces) :
    pieces = cuts.foldr Cut.before [] := by
  induction h with
  | nil => rfl
  | placeholder _ ih =>
    rw [ih]
    rfl
  | literal hne hgroup hcuts h ih =>
    rw [foldr_before_append hne hgroup, ← ih, h.prepend_eq hcuts]

theorem literal_ne_nil {cuts : List Cut} {pieces : List Piece} (h : Merges cuts pieces)
    (hcuts : ∀ cut ∈ cuts, cut.literal? ≠ some []) : ∀ piece ∈ pieces, piece ≠ .literal [] := by
  induction h with
  | nil => exact fun _ hmem => nomatch hmem
  | placeholder _ ih =>
    exact List.forall_mem_cons.mpr ⟨by simp, ih (List.forall_mem_cons.mp hcuts).2⟩
  | @literal group cuts texts pieces hne hgroup _ _ ih =>
    obtain ⟨hfirst, hcuts⟩ := List.forall_mem_append.mp hcuts
    refine List.forall_mem_cons.mpr ⟨?_, ih hcuts⟩
    obtain ⟨cut, group, rfl⟩ := List.exists_cons_of_ne_nil hne
    obtain ⟨text, texts, rfl, htext, -⟩ := List.map_eq_cons_iff.mp hgroup.symm
    intro hnil
    have htext' : text = [] := by
      cases text with
      | nil => rfl
      | cons c text => simp at hnil
    exact hfirst cut (by simp) (by rw [← htext, htext'])

theorem not_adjacent {cuts : List Cut} {pieces : List Piece} (h : Merges cuts pieces)
    (before behind : List Piece) (text text' : Text) :
    pieces ≠ before ++ .literal text :: .literal text' :: behind := by
  induction h generalizing before with
  | nil => simp
  | placeholder _ ih =>
    cases before with
    | nil => simp
    | cons piece before => simpa using fun _ => ih before
  | literal _ _ hcuts h ih =>
    cases before with
    | nil =>
      intro hpieces
      obtain ⟨-, rfl⟩ := List.cons.inj hpieces
      -- the second literal text would have been merged into the first
      have hmerged := h.prepend_eq hcuts []
      simp [Piece.prepend] at hmerged
    | cons piece before => simpa using fun _ => ih before

end Merges

theorem Segmentation.literal_ne_nil {text : Text} {cuts : List Cut} (h : Segmentation text cuts) :
    ∀ cut ∈ cuts, cut.literal? ≠ some [] := by
  induction h with
  | nil => exact fun _ hmem => nomatch hmem
  | @cons cut rest cuts hleads _ ih =>
    refine List.forall_mem_cons.mpr ⟨?_, ih⟩
    cases cut with
    | run text => simpa [Cut.literal?] using hleads.1
    | pair => simp [Cut.literal?]
    | placeholder p => simp [Cut.literal?]
    | lone => simp [Cut.literal?]

theorem Segmentation.exists_leads {text : Text} {cuts : List Cut} (h : Segmentation text cuts) :
    ∀ cut ∈ cuts, ∃ rest, cut.Leads rest := by
  induction h with
  | nil => exact fun _ hmem => nomatch hmem
  | cons hleads _ ih => exact List.forall_mem_cons.mpr ⟨⟨_, hleads⟩, ih⟩

theorem Merges.placeholder_mem {cuts : List Cut} {pieces : List Piece} (h : Merges cuts pieces)
    {p : Placeholder} (hmem : .placeholder p ∈ pieces) : .placeholder p ∈ cuts := by
  induction h with
  | nil => cases hmem
  | placeholder _ ih =>
    rcases List.mem_cons.mp hmem with hp | hmem
    · cases hp
      exact List.mem_cons_self
    · exact List.mem_cons_of_mem _ (ih hmem)
  | literal _ _ _ _ ih =>
    rcases List.mem_cons.mp hmem with hp | hmem
    · cases hp
    · exact List.mem_append_right _ (ih hmem)

/-- A placeholder that is found is written somewhere in the text. -/
theorem Piece.fits_of_mem_scan {text : Text} {p : Placeholder}
    (h : .placeholder p ∈ Piece.scan text) : ∃ rest, p.Fits rest := by
  obtain ⟨cuts, hcuts⟩ := Segmentation.exists_cuts text
  rw [hcuts.scan_eq_foldr] at h
  exact hcuts.exists_leads _ ((Merges.foldr_before cuts).placeholder_mem h)

/-- There is one way to cut a text, and its pieces are the cuts merged.  Nothing of the text is
lost, a percent sign that stands alone hides no placeholder, and no literal text is empty or next to
another. -/
theorem Piece.scan_unique_segmentation (text : Text) :
    (∃! cuts, Segmentation text cuts) ∧ ∀ cuts, Segmentation text cuts →
      (∀ pieces, Merges cuts pieces ↔ pieces = scan text) ∧
      cuts.flatMap Cut.source = text ∧
      (∀ before behind, cuts = before ++ .lone :: behind → ∀ (p : Placeholder) (rest : Text),
        p.Fits rest → behind.flatMap Cut.source ≠ p.form ++ rest) ∧
      (∀ piece ∈ scan text, piece ≠ .literal []) ∧
      ∀ before behind t t', scan text ≠ before ++ .literal t :: .literal t' :: behind := by
  constructor
  · obtain ⟨cuts, hcuts⟩ := Segmentation.exists_cuts text
    exact ⟨cuts, hcuts, fun cuts' hcuts' => hcuts'.unique hcuts⟩
  · intro cuts hcuts
    have hmerges : Merges cuts (scan text) := by
      rw [hcuts.scan_eq_foldr]
      exact Merges.foldr_before cuts
    refine ⟨fun pieces => ⟨fun h => ?_, fun h => ?_⟩, hcuts.flatMap_source, ?_, ?_, ?_⟩
    · rw [h.unique, hcuts.scan_eq_foldr]
    · rw [h]
      exact hmerges
    · rintro before behind rfl
      exact hcuts.lone_ne_form
    · exact hmerges.literal_ne_nil hcuts.literal_ne_nil
    · exact hmerges.not_adjacent

end Phrasebook
