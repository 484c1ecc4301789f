import Mathlib.Data.List.Induction
import Mathlib.Order.Bounds.Basic
import Phrasebook.Proofs.Template.Braces

/-! The span of braces as the shortest text in which as many braces are closed as opened.  What stands
in quotation marks does not count: a text is read as closed quotations and characters outside them,
with one quotation at its end that may be open, and in one way only.  The reader of a span is at any
time behind the text that it has passed, with as many braces open as this text leaves open. -/

namespace Phrasebook.Braces

/-! ### What a text shows outside quotation marks -/

/-- A text whose quotation marks are closed, and what of it stands outside them. -/
inductive Shows : Text → Text → Prop
  | nil : Shows [] []
  | plain {c : Nat} {text shown : Text} : c ≠ '"'.toNat → Shows text shown →
      Shows (c :: text) (c :: shown)
  | quoted {inner text shown : Text} : Quotable inner → Shows text shown →
      Shows ('"'.toNat :: (inner ++ '"'.toNat :: text)) shown

/-- What the end of a text leaves open: nothing, a quotation mark, or one with a backslash at the very
end that has nothing behind it to hide. -/
def Pending : Place → Text → Prop
  | .outside, tail => tail = []
  | .inside, tail => ∃ inner, Quotable inner ∧ tail = '"'.toNat :: inner
  | .escaped, tail => ∃ inner, Quotable inner ∧ tail = '"'.toNat :: (inner ++ ['\\'.toNat])

/-- A text, what of it stands outside quotation marks, and where it ends. -/
def Reads (text shown : Text) (place : Place) : Prop :=
  ∃ front tail, text = front ++ tail ∧ Shows front shown ∧ Pending place tail

/-- Outside its quotation marks, which are closed, a text closes as many braces as it opens. -/
def Level (text : Text) : Prop :=
  ∃ shown, Shows text shown ∧ shown.count '}'.toNat = shown.count '{'.toNat

/-- Outside quotation marks a text opens more braces than it closes. -/
def Deep (text : Text) : Prop :=
  ∃ shown place, Reads text shown place ∧ shown.count '}'.toNat < shown.count '{'.toNat

theorem Shows.append {text shown text' shown' : Text} (h : Shows text shown)
    (h' : Shows text' shown') : Shows (text ++ text') (shown ++ shown') := by
  induction h with
  | nil => exact h'
  | plain hc _ ih => exact .plain hc ih
  | quoted hinner _ ih =>
    rw [List.cons_append, List.append_assoc, List.cons_append]
    exact .quoted hinner ih

theorem Shows.reads {text shown : Text} (h : Shows text shown) : Reads text shown .outside :=
  ⟨text, [], (List.append_nil text).symm, h, rfl⟩

/-! ### One way to read a text -/

/-- What follows the inside of a quotation: its end, the end of the text, or a backslash there. -/
def Cuts (rest : Text) : Prop :=
  rest = [] ∨ rest = ['\\'.toNat] ∨ rest.head? = some '"'.toNat

theorem Quotable.eq_nil_of_cuts {inner rest : Text} (h : Quotable inner)
    (hcuts : Cuts (inner ++ rest)) : inner = [] := by
  cases h with
  | nil => rfl
  | plain hq hb _ =>
    rcases hcuts with hnil | hlast | hquote
    · cases hnil
    · exact absurd (List.cons.inj hlast).1 hb
    · exact absurd (Option.some.inj hquote) hq
  | escaped _ =>
    rcases hcuts with hnil | hlast | hquote
    · cases hnil
    · cases (List.cons.inj hlast).2
    · exact absurd (Option.some.inj hquote) (by decide)

/-- The inside of a quotation goes as far as it can. -/
theorem Quotable.unique {inner inner' rest rest' : Text} (h : Quotable inner)
    (h' : Quotable inner') (hrest : Cuts rest) (hrest' : Cuts rest')
    (heq : inner ++ rest = inner' ++ rest') : inner = inner' ∧ rest = rest' := by
  induction h generalizing inner' with
  | nil =>
    subst heq
    cases h'.eq_nil_of_cuts hrest
    exact ⟨rfl, rfl⟩
  | plain hq hb h ih =>
    cases h' with
    | nil =>
      subst heq
      cases (Quotable.plain hq hb h).eq_nil_of_cuts hrest'
    | plain _ _ h' =>
      obtain ⟨rfl, hmore⟩ := List.cons.inj heq
      obtain ⟨rfl, rfl⟩ := ih h' hmore
      exact ⟨rfl, rfl⟩
    | escaped _ => exact absurd (List.cons.inj heq).1 hb
  | escaped h ih =>
    cases h' with
    | nil =>
      subst heq
      cases (Quotable.escaped h).eq_nil_of_cuts hrest'
    | plain _ hb _ => exact absurd (List.cons.inj heq).1.symm hb
    | escaped h' =>
      obtain ⟨rfl, hmore⟩ := List.cons.inj (List.cons.inj heq).2
      obtain ⟨rfl, rfl⟩ := ih h' hmore
      exact ⟨rfl, rfl⟩

/-- What is left open begins with a quotation mark that nothing closes. -/
theorem Pending.eq_nil_of_shows {place : Place} {text shown tail : Text} (h : Shows text shown)
    (hpending : Pending place (text ++ tail)) : text = [] ∧ shown = [] := by
  have hopen : text ++ tail = [] ∨ ∃ inner rest, Quotable inner ∧
      (rest = [] ∨ rest = ['\\'.toNat]) ∧ text ++ tail = '"'.toNat :: (inner ++ rest) := by
    cases place with
    | outside => exact .inl hpending
    | inside =>
      obtain ⟨inner, hinner, heq⟩ := hpending
      exact .inr ⟨inner, [], hinner, .inl rfl, by rw [List.append_nil, heq]⟩
    | escaped =>
      obtain ⟨inner, hinner, heq⟩ := hpending
      exact .inr ⟨inner, _, hinner, .inr rfl, heq⟩
  cases h with
  | nil => exact ⟨rfl, rfl⟩
  | plain hc _ =>
    rcases hopen with hnil | ⟨_, _, _, _, heq⟩
    · cases hnil
    · exact absurd (List.cons.inj heq).1 hc
  | quoted hinner _ =>
    rcases hopen with hnil | ⟨inner', rest, hinner', hrest, heq⟩
    · cases hnil
    · rw [List.cons_append, List.append_assoc, List.cons_append] at heq
      have hcuts : Cuts rest := hrest.elim .inl fun h => .inr (.inl h)
      obtain ⟨-, hclosed⟩ := hinner.unique hinner' (.inr (.inr rfl)) hcuts (List.cons.inj heq).2
      rcases hrest with rfl | rfl
      · cases hclosed
      · exact absurd (List.cons.inj hclosed).1 (by decide)

theorem Shows.unique {front front' tail tail' shown shown' : Text} {place place' : Place}
    (h : Shows front shown) (h' : Shows front' shown') (htail : Pending place tail)
    (htail' : Pending place' tail') (heq : front ++ tail = front' ++ tail') : shown = shown' := by
  induction h generalizing front' shown' with
  | nil =>
    subst heq
    exact (htail.eq_nil_of_shows h').2.symm
  | plain hc h ih =>
    cases h' with
    | nil =>
      subst heq
      cases (htail'.eq_nil_of_shows (.plain hc h)).1
    | plain _ h' =>
      obtain ⟨rfl, hmore⟩ := List.cons.inj heq
      rw [ih h' hmore]
    | quoted _ _ => exact absurd (List.cons.inj heq).1 hc
  | quoted hinner h ih =>
    cases h' with
    | nil =>
      subst heq
      cases (htail'.eq_nil_of_shows (.quoted hinner h)).1
    | plain hc _ => exact absurd (List.cons.inj heq).1.symm hc
    | quoted hinner' h' =>
      simp only [List.cons_append, List.append_assoc] at heq
      obtain ⟨-, hrest⟩ := hinner.unique hinner' (.inr (.inr rfl)) (.inr (.inr rfl))
        (List.cons.inj heq).2
      exact ih h' (List.cons.inj hrest).2

/-- A text is not read in two ways. -/
theorem Reads.unique {text shown shown' : Text} {place place' : Place}
    (h : Reads text shown place) (h' : Reads text shown' place') : shown = shown' := by
  obtain ⟨front, tail, rfl, hshows, htail⟩ := h
  obtain ⟨front', tail', heq, hshows', htail'⟩ := h'
  exact hshows.unique hshows' htail htail' heq

theorem Level.not_deep {text : Text} (h : Level text) : ¬Deep text := by
  rintro ⟨shown', place, hreads, hlt⟩
  obtain ⟨shown, hshows, heq⟩ := h
  rw [hreads.unique hshows.reads, heq] at hlt
  exact absurd hlt (Nat.lt_irrefl _)

/-! ### The reader of a span -/

/-- The reader at `d` is behind the text: where the text ends, and with as many braces open as the
text leaves open. -/
def Depth.Behind (d : Depth) (text : Text) : Prop :=
  ∃ shown, Reads text shown d.place ∧ d.opened + shown.count '}'.toNat = shown.count '{'.toNat

variable {d : Depth} {text passed span rest : Text}

theorem Reads.snoc_outside {shown : Text} (h : Reads text shown .outside) {c : Nat}
    (hc : c ≠ '"'.toNat) : Reads (text ++ [c]) (shown ++ [c]) .outside := by
  obtain ⟨front, tail, rfl, hshows, rfl⟩ := h
  rw [List.append_nil]
  exact (hshows.append (.plain hc .nil)).reads

theorem Reads.snoc_openingQuote {shown : Text} (h : Reads text shown .outside) :
    Reads (text ++ ['"'.toNat]) shown .inside := by
  obtain ⟨front, tail, rfl, hshows, rfl⟩ := h
  rw [List.append_nil]
  exact ⟨front, _, rfl, hshows, [], .nil, rfl⟩

theorem Reads.snoc_inside {shown : Text} (h : Reads text shown .inside) (n c : Nat) :
    Reads (text ++ [c]) shown (Depth.step ⟨n, .inside⟩ c).place := by
  obtain ⟨front, tail, rfl, hshows, inner, hinner, rfl⟩ := h
  rw [List.append_assoc, List.cons_append]
  by_cases hb : c = '\\'.toNat
  · subst hb
    exact ⟨front, _, rfl, hshows, inner, hinner, rfl⟩
  by_cases hq : c = '"'.toNat
  · subst hq
    have hquoted := hshows.append (.quoted hinner .nil)
    rw [List.append_nil] at hquoted
    exact hquoted.reads
  · simp only [Depth.step, if_neg hb, if_neg hq]
    exact ⟨front, _, rfl, hshows, inner ++ [c], hinner.append (.plain hq hb .nil), rfl⟩

theorem Reads.snoc_escaped {shown : Text} (h : Reads text shown .escaped) (c : Nat) :
    Reads (text ++ [c]) shown .inside := by
  obtain ⟨front, tail, rfl, hshows, inner, hinner, rfl⟩ := h
  have hinner' : Quotable (inner ++ ['\\'.toNat, c]) := hinner.append (.escaped .nil)
  exact ⟨front, _, List.append_assoc _ _ _, hshows, _, hinner', by simp⟩

theorem opened_step_inside (n c : Nat) : (Depth.step ⟨n, .inside⟩ c).opened = n := by
  simp only [Depth.step]
  split
  · rfl
  · split
    · rfl
    · rfl

theorem exists_reads (text : Text) : ∃ shown place, Reads text shown place := by
  induction text using List.reverseRecOn with
  | nil => exact ⟨[], .outside, Shows.nil.reads⟩
  | append_singleton text c ih =>
    obtain ⟨shown, place, h⟩ := ih
    cases place with
    | outside =>
      by_cases hq : c = '"'.toNat
      · subst hq
        exact ⟨shown, .inside, h.snoc_openingQuote⟩
      · exact ⟨shown ++ [c], .outside, h.snoc_outside hq⟩
    | inside => exact ⟨shown, _, h.snoc_inside 0 c⟩
    | escaped => exact ⟨shown, .inside, h.snoc_escaped c⟩

theorem existsUnique_reads (text : Text) : ∃! shown, ∃ place, Reads text shown place := by
  obtain ⟨shown, place, h⟩ := exists_reads text
  exact ⟨shown, ⟨place, h⟩, fun shown' ⟨_, h'⟩ => h'.unique h⟩

/-- One more character: the reader stays behind what it has passed, as long as a brace is open. -/
theorem Depth.Behind.step (h : d.Behind passed) (hopened : d.opened ≠ 0) (c : Nat) :
    (d.step c).Behind (passed ++ [c]) := by
  obtain ⟨opened, place⟩ := d
  obtain ⟨shown, hreads, hcount⟩ := h
  cases place with
  | escaped => exact ⟨shown, hreads.snoc_escaped c, hcount⟩
  | inside =>
    refine ⟨shown, hreads.snoc_inside opened c, ?_⟩
    rw [opened_step_inside]
    exact hcount
  | outside =>
    by_cases hq : c = '"'.toNat
    · subst hq
      exact ⟨shown, hreads.snoc_openingQuote, hcount⟩
    have hsnoc := hreads.snoc_outside hq
    have hcounts (mark : Nat) : (shown ++ [c]).count mark = shown.count mark + [c].count mark :=
      List.count_append
    refine ⟨shown ++ [c], ?_, ?_⟩
    · simp only [Depth.step, if_neg hq]
      split
      · exact hsnoc
      · split
        · exact hsnoc
        · exact hsnoc
    · dsimp only at hcount hopened
      rw [hcounts, hcounts]
      simp only [Depth.step, if_neg hq]
      by_cases ho : c = '{'.toNat
      · subst ho
        have hclosed : ['{'.toNat].count '}'.toNat = 0 := by decide
        simp only [if_true, List.count_singleton_self]
        omega
      by_cases hc : c = '}'.toNat
      · subst hc
        have hmore : ['}'.toNat].count '{'.toNat = 0 := by decide
        simp only [if_neg ho, if_true, List.count_singleton_self]
        omega
      · simp only [if_neg ho, if_neg hc, List.count_singleton, beq_iff_eq]
        omega

theorem Depth.Behind.deep (h : d.Behind passed) (hopened : d.opened ≠ 0) : Deep passed := by
  obtain ⟨shown, hreads, hcount⟩ := h
  exact ⟨shown, d.place, hreads, by omega⟩

/-- Where the last brace is closed, the quotation marks are closed too. -/
theorem Depth.Behind.level {c : Nat} (h : d.Behind passed) (hopened : d.opened ≠ 0)
    (hclosed : (d.step c).opened = 0) : Level (passed ++ [c]) := by
  obtain ⟨shown, hreads, hcount⟩ := h.step hopened c
  obtain ⟨opened, place⟩ := d
  obtain ⟨n, rfl⟩ := Nat.exists_eq_succ_of_ne_zero hopened
  obtain ⟨rfl, rfl, rfl⟩ := eq_of_opened_step_eq_zero hclosed
  obtain ⟨front, tail, heq, hshows, rfl⟩ := hreads
  rw [List.append_nil] at heq
  rw [heq]
  rw [hclosed, Nat.zero_add] at hcount
  exact ⟨shown, hshows, hcount⟩

/-- The run of the reader up to the end of the span: the text is deep until it is level. -/
theorem level_of_closing? (h : closing? d text = some (span, rest)) (hbehind : d.Behind passed)
    (hopened : d.opened ≠ 0) : Level (passed ++ text.take span.length) ∧
      ∀ k < span.length, Deep (passed ++ text.take k) := by
  induction text generalizing d span passed with
  | nil => cases h
  | cons c text ih =>
    rcases closing?_cons_eq_some_iff.mp h with ⟨hclosed, rfl, -⟩ | ⟨hopened', span, hspan, rfl⟩
    · refine ⟨hbehind.level hopened hclosed, fun k hk => ?_⟩
      rw [Nat.lt_one_iff.mp hk, List.take_zero, List.append_nil]
      exact hbehind.deep hopened
    · obtain ⟨hlevel, hdeep⟩ := ih hspan (hbehind.step hopened c) hopened'
      rw [List.append_assoc] at hlevel
      refine ⟨hlevel, fun k hk => ?_⟩
      cases k with
      | zero =>
        rw [List.take_zero, List.append_nil]
        exact hbehind.deep hopened
      | succ k =>
        have hmore := hdeep k (Nat.lt_of_succ_lt_succ hk)
        rwa [List.append_assoc] at hmore

/-- The run of the reader where no span ends: the text is deep all along. -/
theorem deep_of_closing?_eq_none (h : closing? d text = none) (hbehind : d.Behind passed)
    (hopened : d.opened ≠ 0) (k : Nat) : Deep (passed ++ text.take k) := by
  induction text generalizing d passed k with
  | nil =>
    rw [List.take_nil, List.append_nil]
    exact hbehind.deep hopened
  | cons c text ih =>
    cases k with
    | zero =>
      rw [List.take_zero, List.append_nil]
      exact hbehind.deep hopened
    | succ k =>
      rw [closing?] at h
      split at h
      · cases h
      · next hopened' =>
        have hmore := ih (Option.map_eq_none_iff.mp h) (hbehind.step hopened c) hopened' k
        rwa [List.append_assoc] at hmore

/-! ### The span in a text -/

/-- The reader behind the brace that a span begins with. -/
theorem behind_openingBrace : Depth.Behind ⟨1, .outside⟩ ['{'.toNat] :=
  ⟨['{'.toNat], (Shows.plain (by decide) .nil).reads, by decide⟩

theorem span?_openingBrace (text : Text) :
    span? ('{'.toNat :: text) = Text.onto '{'.toNat (closing? ⟨1, .outside⟩ text) := rfl

theorem level_of_span? (hopen : text.head? = some '{'.toNat) (h : span? text = some (span, rest)) :
    Level (text.take span.length) ∧ ∀ k, 0 < k → k < span.length → Deep (text.take k) := by
  obtain ⟨text, rfl⟩ := List.head?_eq_some_iff.mp hopen
  rw [span?_openingBrace] at h
  obtain ⟨span, hspan, rfl⟩ := Text.onto_eq_some_iff.mp h
  obtain ⟨hlevel, hdeep⟩ := level_of_closing? hspan behind_openingBrace (by decide)
  refine ⟨hlevel, fun k hpos hk => ?_⟩
  obtain ⟨k, rfl⟩ := Nat.exists_eq_succ_of_ne_zero (Nat.ne_of_gt hpos)
  exact hdeep k (Nat.lt_of_succ_lt_succ hk)

theorem deep_of_span?_eq_none (hopen : text.head? = some '{'.toNat) (h : span? text = none) {k : Nat}
    (hpos : 0 < k) : Deep (text.take k) := by
  obtain ⟨text, rfl⟩ := List.head?_eq_some_iff.mp hopen
  rw [span?_openingBrace] at h
  obtain ⟨k, rfl⟩ := Nat.exists_eq_succ_of_ne_zero (Nat.ne_of_gt hpos)
  exact deep_of_closing?_eq_none (Option.map_eq_none_iff.mp h) behind_openingBrace (by decide) k

/-- The place in the text behind the span that it has from a place on. -/
def spanEnd? (text : Text) (start : Nat) : Option Nat :=
  (span? (text.drop start)).map fun (span, _) => start + span.length

variable {start stop : Nat}

theorem spanEnd?_eq_some_iff : spanEnd? text start = some stop ↔
    ∃ span rest, span? (text.drop start) = some (span, rest) ∧ start + span.length = stop := by
  unfold spanEnd?
  rw [Option.map_eq_some_iff, Prod.exists]

theorem spanEnd?_eq_none_iff : spanEnd? text start = none ↔ span? (text.drop start) = none :=
  Option.map_eq_none_iff

/-- Up to the end of the span the text is level, and up to all places before it is deep. -/
theorem level_of_spanEnd? (hopen : text[start]? = some '{'.toNat)
    (h : spanEnd? text start = some stop) :
    start < stop ∧ stop ≤ text.length ∧ Level (text.extract start stop) ∧
      ∀ k, start < k → k < stop → Deep (text.extract start k) := by
  obtain ⟨span, rest, hspan, rfl⟩ := spanEnd?_eq_some_iff.mp h
  obtain ⟨hlevel, hdeep⟩ := level_of_span? (List.head?_drop.trans hopen) hspan
  obtain ⟨⟨inner, -, rfl⟩, hdrop⟩ := (span?_eq_some_iff (List.head?_drop.trans hopen)).mp hspan
  have hstart : start < text.length := (List.getElem?_eq_some_iff.mp hopen).1
  have hlength := congrArg List.length hdrop
  rw [List.length_drop, List.length_append] at hlength
  refine ⟨by simp, by omega, ?_, fun k hstart hstop => hdeep (k - start) (by omega) (by omega)⟩
  rwa [List.extract_eq_take_drop, Nat.add_sub_cancel_left]

theorem deep_of_spanEnd?_eq_none (hopen : text[start]? = some '{'.toNat)
    (h : spanEnd? text start = none) {k : Nat} (hk : start < k) : Deep (text.extract start k) :=
  deep_of_span?_eq_none (List.head?_drop.trans hopen) (spanEnd?_eq_none_iff.mp h)
    (Nat.sub_pos_of_lt hk)

/-- The end of the span is found from the span alone. -/
theorem spanEnd?_of_extract_eq {text' : Text} (hopen : text[start]? = some '{'.toNat)
    (h : spanEnd? text start = some stop)
    (hsame : text'.extract start stop = text.extract start stop) :
    spanEnd? text' start = some stop := by
  obtain ⟨span, rest, hspan, rfl⟩ := spanEnd?_eq_some_iff.mp h
  obtain ⟨hbody, hdrop⟩ := (span?_eq_some_iff (List.head?_drop.trans hopen)).mp hspan
  rw [List.extract_eq_take_drop, List.extract_eq_take_drop, Nat.add_sub_cancel_left, hdrop,
    List.take_left] at hsame
  have hdrop' := List.take_append_drop span.length (text'.drop start)
  rw [hsame] at hdrop'
  have hspan' := span?_append hbody ((text'.drop start).drop span.length)
  rw [hdrop'] at hspan'
  exact spanEnd?_eq_some_iff.mpr ⟨span, _, hspan', rfl⟩

/-- Every text is read in one way.  The span ends at the least place behind its start up to which the
text is level, and there is none if there is no such place.  All that is shorter is deep, and what
stands outside of the span does not matter. -/
theorem spanEnd?_isLeast (hopen : text[start]? = some '{'.toNat) :
    (∀ part : Text, ∃! shown, ∃ place, Reads part shown place) ∧
    (∀ stop, spanEnd? text start = some stop ↔
      IsLeast {stop | start < stop ∧ stop ≤ text.length ∧ Level (text.extract start stop)} stop) ∧
    (spanEnd? text start = none ↔
      ∀ stop, start < stop → stop ≤ text.length → ¬Level (text.extract start stop)) ∧
    ∀ stop, spanEnd? text start = some stop →
      (∀ k, start < k → k < stop → Deep (text.extract start k)) ∧
      ∀ text' : Text, text'.extract start stop = text.extract start stop →
        spanEnd? text' start = some stop := by
  have hleast {stop : Nat} (h : spanEnd? text start = some stop) :
      IsLeast {stop | start < stop ∧ stop ≤ text.length ∧ Level (text.extract start stop)} stop := by
    obtain ⟨hstart, hlength, hlevel, hdeep⟩ := level_of_spanEnd? hopen h
    refine ⟨⟨hstart, hlength, hlevel⟩, fun stop' hstop' => Nat.le_of_not_lt fun hlt => ?_⟩
    exact hstop'.2.2.not_deep (hdeep stop' hstop'.1 hlt)
  have hnone (h : spanEnd? text start = none) {stop : Nat} (hstart : start < stop) :
      ¬Level (text.extract start stop) :=
    fun hlevel => hlevel.not_deep (deep_of_spanEnd?_eq_none hopen h hstart)
  refine ⟨existsUnique_reads, fun stop => ⟨hleast, fun h => ?_⟩, ⟨fun h stop hstart _ => hnone h hstart,
    fun h => ?_⟩, fun stop h => ⟨(level_of_spanEnd? hopen h).2.2.2,
      fun text' hsame => spanEnd?_of_extract_eq hopen h hsame⟩⟩
  · cases hend : spanEnd? text start with
    | none => exact absurd h.1.2.2 (hnone hend h.1.1)
    | some stop' => rw [IsLeast.unique (hleast hend) h]
  · cases hend : spanEnd? text start with
    | none => rfl
    | some stop =>
      obtain ⟨hstart, hlength, hlevel, -⟩ := level_of_spanEnd? hopen hend
      exact absurd hlevel (h stop hstart hlength)

/-- Braces and a backslash with a quotation mark in a quotation, and what is missing at the end. -/
theorem spanEnd?_isLeast_quoted :
    let text := Text.lit "%<\x7b\"\\\"\x7d\"\x7d>\x7d"
    text[2]? = some '{'.toNat ∧ spanEnd? text 2 = some 9 ∧ Level (text.extract 2 9) ∧
      Deep (text.extract 2 7) ∧ spanEnd? (text.take 9) 2 = some 9 ∧
      (text.take 8)[2]? = some '{'.toNat ∧ spanEnd? (text.take 8) 2 = none ∧
      ¬Level ((text.take 8).extract 2 7) := by
  intro text
  have hopen : text[2]? = some '{'.toNat := by decide
  have hend : spanEnd? text 2 = some 9 := by decide
  obtain ⟨-, hleast, -, hbehind⟩ := spanEnd?_isLeast hopen
  obtain ⟨hdeep, hlocal⟩ := hbehind 9 hend
  have hcut : (text.take 8)[2]? = some '{'.toNat := by decide
  have hnone : spanEnd? (text.take 8) 2 = none := by decide
  obtain ⟨-, -, hnever, -⟩ := spanEnd?_isLeast hcut
  exact ⟨hopen, hend, ((hleast 9).mp hend).1.2.2, hdeep 7 (by decide) (by decide),
    hlocal (text.take 9) (by decide), hcut, hnone,
    hnever.mp hnone 7 (by decide) (by decide)⟩

end Phrasebook.Braces
