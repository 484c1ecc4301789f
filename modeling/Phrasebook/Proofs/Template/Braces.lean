import Phrasebook.Template.Braces

/-! Balanced texts, and the span of braces as a brace, a balanced text and the brace that closes it.
Reading a balanced text comes back to the depth it starts from, and never closes a brace that was
open before. -/

namespace Phrasebook.Braces

/-- What may stand between quotation marks: characters, and behind each backslash any character. -/
inductive Quotable : Text → Prop
  | nil : Quotable []
  | plain {c : Nat} {text : Text} : c ≠ '"'.toNat → c ≠ '\\'.toNat → Quotable text →
      Quotable (c :: text)
  | escaped {c : Nat} {text : Text} : Quotable text → Quotable ('\\'.toNat :: c :: text)

/-- A text in which every quotation mark and every brace has its partner. -/
inductive Balanced : Text → Prop
  | nil : Balanced []
  | plain {c : Nat} {text : Text} : c ≠ '"'.toNat → c ≠ '{'.toNat → c ≠ '}'.toNat →
      Balanced text → Balanced (c :: text)
  | quoted {inner text : Text} : Quotable inner → Balanced text →
      Balanced ('"'.toNat :: (inner ++ '"'.toNat :: text))
  | braced {inner text : Text} : Balanced inner → Balanced text →
      Balanced ('{'.toNat :: (inner ++ '}'.toNat :: text))

/-- A balanced text in braces. -/
def Span (body : Text) : Prop :=
  ∃ inner, Balanced inner ∧ body = '{'.toNat :: (inner ++ ['}'.toNat])

theorem Quotable.append {text text' : Text} (h : Quotable text) (h' : Quotable text') :
    Quotable (text ++ text') := by
  induction h with
  | nil => exact h'
  | plain hq hb _ ih => exact .plain hq hb ih
  | escaped _ ih => exact .escaped ih

theorem Balanced.append {text text' : Text} (h : Balanced text) (h' : Balanced text') :
    Balanced (text ++ text') := by
  induction h with
  | nil => exact h'
  | plain hq ho hc _ ih => exact .plain hq ho hc ih
  | quoted hinner _ ih =>
    rw [List.cons_append, List.append_assoc, List.cons_append]
    exact .quoted hinner ih
  | braced hinner _ _ ih =>
    rw [List.cons_append, List.append_assoc, List.cons_append]
    exact .braced hinner ih

theorem Balanced.singleton {c : Nat} (hq : c ≠ '"'.toNat) (ho : c ≠ '{'.toNat)
    (hc : c ≠ '}'.toNat) : Balanced [c] := .plain hq ho hc .nil

/-! ### Reading a part of a span -/

/-- From depth `d`, no brace that closes the span is in `w`, and behind `w` the depth is `d'`. -/
def Passes (d : Depth) (w : Text) (d' : Depth) : Prop :=
  ∀ rest, closing? d (w ++ rest) = (closing? d' rest).map fun (span, after) => (w ++ span, after)

/-- From depth `d`, the text is a span to its end. -/
def Ends (d : Depth) (text : Text) : Prop := closing? d text = some (text, [])

theorem Passes.refl (d : Depth) : Passes d [] d := by
  intro rest
  rw [List.nil_append]
  cases closing? d rest with
  | none => rfl
  | some found => rfl

theorem Passes.append {d d' d'' : Depth} {w w' : Text} (h : Passes d w d') (h' : Passes d' w' d'') :
    Passes d (w ++ w') d'' := by
  intro rest
  rw [List.append_assoc, h, h', Option.map_map]
  cases closing? d'' rest with
  | none => rfl
  | some found => simp

theorem Passes.cons {d d' d'' : Depth} {c : Nat} {w : Text} (hstep : d.step c = d')
    (hopened : d'.opened ≠ 0) (h : Passes d' w d'') : Passes d (c :: w) d'' := by
  subst hstep
  refine Passes.append (w := [c]) (fun rest => ?_) h
  rw [List.singleton_append, closing?]
  simp only [if_neg hopened]
  rfl

theorem Passes.ends_append_iff {d d' : Depth} {w : Text} (h : Passes d w d') (rest : Text) :
    Ends d (w ++ rest) ↔ Ends d' rest := by
  unfold Ends
  rw [h]
  simp

theorem Ends.ne_nil {d : Depth} {text : Text} (h : Ends d text) : text ≠ [] := by
  rintro rfl
  cases h

theorem passes_openingQuote (n : Nat) :
    Passes ⟨n + 1, .outside⟩ ['"'.toNat] ⟨n + 1, .inside⟩ :=
  .cons rfl (Nat.succ_ne_zero n) (.refl _)

theorem passes_closingQuote (n : Nat) :
    Passes ⟨n + 1, .inside⟩ ['"'.toNat] ⟨n + 1, .outside⟩ :=
  .cons rfl (Nat.succ_ne_zero n) (.refl _)

theorem passes_backslash (n : Nat) :
    Passes ⟨n + 1, .inside⟩ ['\\'.toNat] ⟨n + 1, .escaped⟩ :=
  .cons rfl (Nat.succ_ne_zero n) (.refl _)

theorem passes_behindBackslash (n c : Nat) :
    Passes ⟨n + 1, .escaped⟩ [c] ⟨n + 1, .inside⟩ :=
  .cons rfl (Nat.succ_ne_zero n) (.refl _)

theorem passes_openingBrace (n : Nat) : Passes ⟨n, .outside⟩ ['{'.toNat] ⟨n + 1, .outside⟩ :=
  .cons rfl (Nat.succ_ne_zero n) (.refl _)

theorem passes_closingBrace (n : Nat) :
    Passes ⟨n + 2, .outside⟩ ['}'.toNat] ⟨n + 1, .outside⟩ :=
  .cons rfl (Nat.succ_ne_zero n) (.refl _)

theorem closing?_closingBrace (rest : Text) :
    closing? ⟨1, .outside⟩ ('}'.toNat :: rest) = some (['}'.toNat], rest) := rfl

theorem Quotable.passes {text : Text} (h : Quotable text) (n : Nat) :
    Passes ⟨n + 1, .inside⟩ text ⟨n + 1, .inside⟩ := by
  induction h with
  | nil => exact .refl _
  | plain hq hb _ ih =>
    refine .cons ?_ (Nat.succ_ne_zero n) ih
    simp only [Depth.step, if_neg hb, if_neg hq]
  | escaped _ ih => exact (passes_backslash n).append ((passes_behindBackslash n _).append ih)

theorem Balanced.passes {text : Text} (h : Balanced text) (n : Nat) :
    Passes ⟨n + 1, .outside⟩ text ⟨n + 1, .outside⟩ := by
  induction h generalizing n with
  | nil => exact .refl _
  | plain hq ho hc _ ih =>
    refine .cons ?_ (Nat.succ_ne_zero n) (ih n)
    simp only [Depth.step, if_neg hq, if_neg ho, if_neg hc]
  | quoted hinner _ ih =>
    exact (passes_openingQuote n).append
      ((hinner.passes n).append ((passes_closingQuote n).append (ih n)))
  | braced _ _ ihinner ih =>
    exact (passes_openingBrace (n + 1)).append
      ((ihinner (n + 1)).append ((passes_closingBrace n).append (ih n)))

/-! ### What a span is -/

theorem span?_append {body : Text} (h : Span body) (rest : Text) :
    span? (body ++ rest) = some (body, rest) := by
  obtain ⟨inner, hinner, rfl⟩ := h
  have hpasses := (passes_openingBrace 0).append (hinner.passes 0)
  have hclosing := hpasses ('}'.toNat :: rest)
  rw [closing?_closingBrace] at hclosing
  unfold span? Depth.start
  simpa using hclosing

theorem Span.ends {body : Text} (h : Span body) : Ends .start body := by
  have hspan := span?_append h []
  rwa [List.append_nil] at hspan

/-- What is left of a span: balanced texts, each closed by a brace, of which there are `n + 1`. -/
inductive Closing : Nat → Text → Prop
  | last {w : Text} : Balanced w → Closing 0 (w ++ ['}'.toNat])
  | more {n : Nat} {w text : Text} : Balanced w → Closing n text →
      Closing (n + 1) (w ++ '}'.toNat :: text)

theorem Closing.append {n : Nat} {w text : Text} (hw : Balanced w) (h : Closing n text) :
    Closing n (w ++ text) := by
  cases h with
  | last hlast =>
    rw [← List.append_assoc]
    exact .last (hw.append hlast)
  | more hmore h =>
    rw [← List.append_assoc]
    exact .more (hw.append hmore) h

theorem Closing.braced {n : Nat} {text : Text} (h : Closing (n + 1) text) :
    Closing n ('{'.toNat :: text) := by
  cases h with
  | @more _ w text hw h =>
    have h' := Closing.append (.braced hw .nil) h
    simpa using h'

/-- What is left of a span, by where its first character stands. -/
def Closes (n : Nat) : Place → Text → Prop
  | .outside, span => Closing n span
  | .inside, span => ∃ inner rest, Quotable inner ∧ Closing n rest ∧
      span = inner ++ '"'.toNat :: rest
  | .escaped, span => ∃ c inner rest, Quotable inner ∧ Closing n rest ∧
      span = c :: (inner ++ '"'.toNat :: rest)

theorem closing?_cons_eq_some_iff {d : Depth} {c : Nat} {text span rest : Text} :
    closing? d (c :: text) = some (span, rest) ↔
      (d.step c).opened = 0 ∧ span = [c] ∧ rest = text ∨ (d.step c).opened ≠ 0 ∧
        ∃ span', closing? (d.step c) text = some (span', rest) ∧ span = c :: span' := by
  rw [closing?]
  split
  · next hclosed => simp [hclosed, eq_comm]
  · next hopened => simp [hopened, Text.onto_eq_some_iff]

/-- Only a brace closes a span, and only outside quotation marks. -/
theorem eq_of_opened_step_eq_zero {n : Nat} {place : Place} {c : Nat}
    (h : (Depth.step ⟨n + 1, place⟩ c).opened = 0) :
    n = 0 ∧ place = .outside ∧ c = '}'.toNat := by
  cases place with
  | escaped => cases h
  | inside =>
    simp only [Depth.step] at h
    split at h
    · cases h
    · split at h
      · cases h
      · cases h
  | outside =>
    simp only [Depth.step] at h
    split at h
    · cases h
    · split at h
      · cases h
      · split at h
        · next hc => exact ⟨h, rfl, hc⟩
        · cases h

theorem closes_of_closing? {n : Nat} {place : Place} {text span rest : Text}
    (h : closing? ⟨n + 1, place⟩ text = some (span, rest)) : Closes n place span := by
  induction text generalizing n place span with
  | nil => cases h
  | cons c text ih =>
    rcases closing?_cons_eq_some_iff.mp h with ⟨hclosed, rfl, -⟩ | ⟨hopened, span, hspan, rfl⟩
    · obtain ⟨rfl, rfl, rfl⟩ := eq_of_opened_step_eq_zero hclosed
      exact .last .nil
    · cases place with
      | escaped =>
        obtain ⟨inner, rest', hinner, hclosing, rfl⟩ := ih hspan
        exact ⟨c, inner, rest', hinner, hclosing, rfl⟩
      | inside =>
        by_cases hb : c = '\\'.toNat
        · subst hb
          obtain ⟨c, inner, rest', hinner, hclosing, rfl⟩ := ih hspan
          exact ⟨_, rest', .escaped hinner, hclosing, rfl⟩
        by_cases hq : c = '"'.toNat
        · subst hq
          exact ⟨[], span, .nil, ih hspan, rfl⟩
        · simp only [Depth.step, if_neg hb, if_neg hq] at hspan
          obtain ⟨inner, rest', hinner, hclosing, rfl⟩ := ih hspan
          exact ⟨c :: inner, rest', .plain hq hb hinner, hclosing, rfl⟩
      | outside =>
        by_cases hq : c = '"'.toNat
        · subst hq
          obtain ⟨inner, rest', hinner, hclosing, rfl⟩ := ih hspan
          have hquoted := Closing.append (.quoted hinner .nil) hclosing
          simpa [Closes] using hquoted
        by_cases ho : c = '{'.toNat
        · subst ho
          exact Closing.braced (ih hspan)
        by_cases hc : c = '}'.toNat
        · subst hc
          cases n with
          | zero => exact absurd rfl hopened
          | succ n => exact .more .nil (ih hspan)
        · simp only [Depth.step, if_neg hq, if_neg ho, if_neg hc] at hspan
          exact Closing.append (.singleton hq ho hc) (ih hspan)

/-- Behind a brace that is open, the shortest balanced text in braces is read. -/
theorem span?_eq_some_iff {text span rest : Text} (h : text.head? = some '{'.toNat) :
    span? text = some (span, rest) ↔ Span span ∧ text = span ++ rest := by
  constructor
  · intro hspan
    obtain ⟨text, rfl⟩ := List.head?_eq_some_iff.mp h
    refine ⟨?_, (append_of_span? hspan).symm⟩
    rcases closing?_cons_eq_some_iff.mp hspan with ⟨hclosed, -⟩ | ⟨-, span, hclosing, rfl⟩
    · cases hclosed
    · have hcloses : Closing 0 span := closes_of_closing? hclosing
      cases hcloses with
      | @last w hw => exact ⟨w, hw, rfl⟩
  · rintro ⟨hspan, rfl⟩
    exact span?_append hspan rest

/-- Inside a span that ends with the text, some brace is still open. -/
theorem exists_ends_of_append {n : Nat} {place : Place} (w : Text) {rest : Text}
    (h : Ends ⟨n + 1, place⟩ (w ++ rest)) (hrest : rest ≠ []) :
    ∃ m place', Ends ⟨m + 1, place'⟩ rest := by
  induction w generalizing n place with
  | nil => exact ⟨n, place, h⟩
  | cons c w ih =>
    rcases closing?_cons_eq_some_iff.mp h with ⟨-, hspan, -⟩ | ⟨hopened, span, hspan, heq⟩
    · have hnil : w ++ rest = [] := (List.cons.inj hspan).2
      exact absurd (List.append_eq_nil_iff.mp hnil).2 hrest
    · obtain ⟨-, rfl⟩ := List.cons.inj heq
      obtain ⟨m, hm⟩ := Nat.exists_eq_succ_of_ne_zero hopened
      have hbehind : Ends ⟨m + 1, (Depth.step ⟨n + 1, place⟩ c).place⟩ (w ++ rest) := by
        rw [← Nat.succ_eq_add_one, ← hm]
        exact hspan
      exact ih hbehind

theorem eq_of_ends_singleton {n : Nat} {place : Place} {c : Nat} (h : Ends ⟨n + 1, place⟩ [c]) :
    c = '}'.toNat := by
  rcases closing?_cons_eq_some_iff.mp h with ⟨hclosed, -⟩ | ⟨-, span, hspan, -⟩
  · exact (eq_of_opened_step_eq_zero hclosed).2.2
  · cases hspan

theorem Balanced.of_forall {w : Text}
    (h : ∀ c ∈ w, c ≠ '"'.toNat ∧ c ≠ '{'.toNat ∧ c ≠ '}'.toNat) : Balanced w := by
  induction w with
  | nil => exact .nil
  | cons c w ih =>
    obtain ⟨⟨hq, ho, hc⟩, h⟩ := List.forall_mem_cons.mp h
    exact .plain hq ho hc (ih h)

theorem Quotable.of_forall {w : Text} (h : ∀ c ∈ w, c ≠ '"'.toNat ∧ c ≠ '\\'.toNat) :
    Quotable w := by
  induction w with
  | nil => exact .nil
  | cons c w ih =>
    obtain ⟨⟨hq, hb⟩, h⟩ := List.forall_mem_cons.mp h
    exact .plain hq hb (ih h)

/-- Braces around plain text close themselves and nothing else, inside quotation marks and outside. -/
theorem not_ends_braced {n : Nat} {place : Place} {inner : Text}
    (h : ∀ c ∈ inner, c ≠ '"'.toNat ∧ c ≠ '\\'.toNat ∧ c ≠ '{'.toNat ∧ c ≠ '}'.toNat) :
    ¬Ends ⟨n + 1, place⟩ ('{'.toNat :: (inner ++ ['}'.toNat])) := by
  have hbalanced : Balanced inner := .of_forall fun c hc => ⟨(h c hc).1, (h c hc).2.2⟩
  have hquotable : Quotable (inner ++ ['}'.toNat]) :=
    .append (.of_forall fun c hc => ⟨(h c hc).1, (h c hc).2.1⟩)
      (.plain (by decide) (by decide) .nil)
  have hpasses : ∃ place', Passes ⟨n + 1, place⟩ ('{'.toNat :: (inner ++ ['}'.toNat]))
      ⟨n + 1, place'⟩ := by
    cases place with
    | outside => exact ⟨_, (Balanced.braced hbalanced .nil).passes n⟩
    | inside => exact ⟨_, (Quotable.plain (by decide) (by decide) hquotable).passes n⟩
    | escaped => exact ⟨_, (passes_behindBackslash n _).append (hquotable.passes n)⟩
  obtain ⟨place', hpasses⟩ := hpasses
  intro hends
  rw [← List.append_nil ('{'.toNat :: (inner ++ ['}'.toNat])), hpasses.ends_append_iff] at hends
  exact hends.ne_nil rfl

end Phrasebook.Braces
