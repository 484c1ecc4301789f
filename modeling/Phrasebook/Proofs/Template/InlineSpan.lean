import Phrasebook.Proofs.Template.InlinePlural
import Phrasebook.Proofs.Template.Segmentation

/-! Where inline plurals end.  An inline plural without spaces around it is a span of braces, so the
scan finds all of it; and inside a span the parser never runs out of text. -/

namespace Phrasebook.InlinePlural

open Braces (Quotable Balanced Span Ends)
open QuotedString (Item readItems isHex)
open Text (skipSpaces isSpace lit onto_eq_error_iff)

/-! ### The grammar is balanced -/

theorem ne_of_isHex {c : Nat} (h : isHex c) : c ≠ '"'.toNat ∧ c ≠ '\\'.toNat := by
  constructor
  · rintro rfl
    exact absurd h (by decide)
  · rintro rfl
    exact absurd h (by decide)

theorem quotable_unit {a b c d : Nat} (ha : isHex a) (hb : isHex b) (hc : isHex c)
    (hd : isHex d) : Quotable (Item.unit a b c d).written := by
  have hdigits : ∀ digit ∈ [a, b, c, d], digit ≠ '"'.toNat ∧ digit ≠ '\\'.toNat := by
    simp only [List.forall_mem_cons]
    exact ⟨ne_of_isHex ha, ne_of_isHex hb, ne_of_isHex hc, ne_of_isHex hd, List.forall_mem_nil _⟩
  exact .escaped (.of_forall hdigits)

theorem quotable_written {item : Item} (h : item.Valid) : Quotable item.written := by
  have hform := (Item.stands_iff.mp h.stands).2
  cases item with
  | plain c => exact .plain hform.1 hform.2 .nil
  | escape letter => exact .escaped .nil
  | unit a b c d => exact quotable_unit hform.1 hform.2.1 hform.2.2.1 hform.2.2.2

theorem quotable_flatMap_written {items : List Item} (h : ∀ item ∈ items, item.Valid) :
    Quotable (items.flatMap Item.written) := by
  induction items with
  | nil => exact .nil
  | cons item items ih =>
    obtain ⟨hitem, hitems⟩ := List.forall_mem_cons.mp h
    exact (quotable_written hitem).append (ih hitems)

theorem Str.balanced {w : Text} {items : List Item} (h : Str Item.Valid w items) : Balanced w := by
  cases h with
  | mk hitems => exact .quoted (quotable_flatMap_written hitems) .nil

theorem Blank.balanced {b : Text} (h : Blank b) : Balanced b := by
  refine .of_forall fun c hc => ?_
  rcases h c hc with rfl | rfl | rfl | rfl
  all_goals decide

theorem Member.balanced {w : Text} {member : List Item × List Item}
    (h : Member Item.Valid w member) : Balanced w := by
  cases h with
  | mk hw hb hb' hw' =>
    exact hw.balanced.append (hb.balanced.append
      (.plain (by decide) (by decide) (by decide) (hb'.balanced.append hw'.balanced)))

theorem Members.balanced {w : Text} {members : List (List Item × List Item)}
    (h : Members Item.Valid w members) : Balanced w := by
  induction h with
  | one hmember => exact hmember.balanced
  | more hmember hb hb' _ ih =>
    exact hmember.balanced.append (hb.balanced.append
      (.plain (by decide) (by decide) (by decide) (hb'.balanced.append ih)))

theorem Categories.balanced {w : Text} {members : List (List Item × List Item)}
    (h : Categories Item.Valid w members) : Balanced w := by
  cases h with
  | none hb => exact .braced hb.balanced .nil
  | @some w b b' _ hb hw hb' =>
    have hinner : Balanced (b ++ (w ++ b')) :=
      hb.balanced.append (hw.balanced.append hb'.balanced)
    have hbraced := Balanced.braced hinner .nil
    simpa only [List.append_assoc] using hbraced

theorem Root.span {w : Text} {key : List Item} {members : List (List Item × List Item)}
    (h : Root Item.Valid w key members) : Span w := by
  cases h with
  | @mk w w' b₁ b₂ b₃ b₄ _ _ hb₁ hw hb₂ hb₃ hw' hb₄ =>
    have hbehind : Balanced (':'.toNat :: (b₃ ++ (w' ++ b₄))) :=
      .plain (by decide) (by decide) (by decide)
        (hb₃.balanced.append (hw'.balanced.append hb₄.balanced))
    refine ⟨b₁ ++ (w ++ (b₂ ++ ':'.toNat :: (b₃ ++ (w' ++ b₄)))), ?_, ?_⟩
    · exact hb₁.balanced.append (hw.balanced.append (hb₂.balanced.append hbehind))
    · simp only [List.append_assoc, List.cons_append]

theorem Blank.eq_nil_of_head? {b text : Text} (h : Blank b) {c : Nat} (hc : isSpace c = false)
    (hhead : (b ++ text).head? = some c) : b = [] := by
  cases b with
  | nil => rfl
  | cons d b =>
    cases hhead
    rw [isSpace_iff.mpr (h c (by simp))] at hc
    cases hc

theorem Blank.eq_nil_of_getLast? {b text : Text} (h : Blank b) {c : Nat} (hc : isSpace c = false)
    (hlast : (text ++ b).getLast? = some c) : b = [] := by
  rcases List.eq_nil_or_concat b with hnil | ⟨b, d, rfl⟩
  · exact hnil
  · rw [List.concat_eq_append] at h hlast
    rw [← List.append_assoc, List.getLast?_concat] at hlast
    cases hlast
    rw [isSpace_iff.mpr (h c (by simp))] at hc
    cases hc

/-- An inline plural between its braces is a span. -/
theorem span_of_parse {body : Text} {plural : InlinePlural} (h : parse body = .ok plural)
    (hhead : body.head? = some '{'.toNat) (hlast : body.getLast? = some '}'.toNat) :
    Span body := by
  obtain ⟨key, members, hbody, -⟩ := parse_eq_ok_iff.mp h
  obtain ⟨hb, hroot, hb'⟩ := hbody
  obtain rfl := hb.eq_nil_of_head? (by decide) hhead
  rw [List.nil_append] at hlast ⊢
  obtain rfl := hb'.eq_nil_of_getLast? (by decide) hlast
  rw [List.append_nil]
  exact hroot.span

/-! ### Faults inside a span -/

/-- What is wrong shows only behind the last character, or behind a whole inline plural. -/
def Reason.AtEnd : Reason → Prop
  | .string .unterminated => True
  | .string (.invalidEscape none) => True
  | .trailingContent => True
  | _ => False

/-- The fault shows before the end of the text. -/
def Inside (fault : Fault) : Prop := fault.2 ≠ [] ∧ ¬fault.1.AtEnd

/-- The reading finds something as in `P`, or a fault inside the text. -/
def Keeps {α : Type} (P : α → Prop) : Except Fault α → Prop
  | .ok a => P a
  | .error fault => Inside fault

theorem Keeps.bind {α β : Type} {P : α → Prop} {Q : β → Prop} {reading : Except Fault α}
    {next : α → Except Fault β} (h : Keeps P reading) (hnext : ∀ a, P a → Keeps Q (next a)) :
    Keeps Q (reading >>= next) := by
  cases reading with
  | ok a => exact hnext a h
  | error fault => exact h

theorem Keeps.imp {α : Type} {P Q : α → Prop} {reading : Except Fault α} (h : Keeps P reading)
    (himp : ∀ a, P a → Q a) : Keeps Q reading := by
  cases reading with
  | ok a => exact himp a h
  | error fault => exact h

variable {n : Nat} {text : Text}

theorem inside_of_readItems {fault : QuotedString.Fault} {left : Text}
    (h : readItems text = .error (fault, left)) (hends : Ends ⟨n + 1, .inside⟩ text) :
    Inside (.string fault, left) := by
  fun_induction readItems text with
  | case1 => exact absurd rfl hends.ne_nil
  | case2 => cases h
  | case3 c rest hq hb ih =>
    rw [onto_eq_error_iff] at h
    exact ih h ((((Quotable.plain hq hb .nil).passes n).ends_append_iff rest).mp hends)
  | case4 c _ hb =>
    -- a backslash at the end would hide the quotation mark that closes the string
    obtain rfl := not_not.mp hb
    exact absurd rfl (((Braces.passes_backslash n).ends_append_iff []).mp hends).ne_nil
  | case5 c _ hb letter rest _ ih =>
    obtain rfl := not_not.mp hb
    rw [onto_eq_error_iff] at h
    exact ih h ((((Quotable.escaped .nil).passes n).ends_append_iff rest).mp hends)
  | case6 c' _ hb a b c d behind hhex _ ih =>
    obtain rfl := not_not.mp hb
    rw [onto_eq_error_iff] at h
    simp only [Bool.and_eq_true, and_assoc] at hhex
    obtain ⟨ha, hb, hc, hd⟩ := hhex
    exact ih h ((((quotable_unit ha hb hc hd).passes n).ends_append_iff behind).mp hends)
  | case7 =>
    cases h
    exact ⟨List.cons_ne_nil _ _, not_false⟩
  | case8 c _ hb rest =>
    obtain rfl := not_not.mp hb
    have hrest := (((Quotable.escaped .nil).passes n).ends_append_iff rest).mp hends
    cases h
    exact ⟨hrest.ne_nil, not_false⟩
  | case9 c _ hb letter rest =>
    obtain rfl := not_not.mp hb
    have hrest := (((Quotable.escaped .nil).passes n).ends_append_iff rest).mp hends
    cases h
    exact ⟨hrest.ne_nil, not_false⟩

theorem ends_skipSpaces (h : Ends ⟨n + 1, .outside⟩ text) :
    Ends ⟨n + 1, .outside⟩ (skipSpaces text) := by
  obtain ⟨b, hb, htext⟩ := @exists_blank_append text _ rfl
  rwa [htext, (hb.balanced.passes n).ends_append_iff] at h

theorem exists_skipSpaces (h : Ends ⟨n + 1, .outside⟩ text) :
    ∃ c rest, skipSpaces text = c :: rest ∧ Ends ⟨n + 1, .outside⟩ (c :: rest) := by
  have hends := ends_skipSpaces h
  obtain ⟨c, rest, hskip⟩ := List.exists_cons_of_ne_nil hends.ne_nil
  rw [hskip] at hends
  exact ⟨c, rest, hskip, hends⟩

theorem keeps_expect (c : Nat) (h : Ends ⟨n + 1, .outside⟩ text) :
    Keeps (fun rest => Ends ⟨n + 1, .outside⟩ (c :: rest)) (expect c text) := by
  obtain ⟨d, rest, hskip, hends⟩ := exists_skipSpaces h
  unfold expect
  rw [hskip]
  simp only
  split
  · next hd =>
    subst hd
    exact hends
  · exact ⟨List.cons_ne_nil _ _, not_false⟩

theorem keeps_readString (h : Ends ⟨n + 1, .outside⟩ text) :
    Keeps (fun found => Ends ⟨n + 1, .outside⟩ found.2) (readString text) := by
  cases hread : readString text with
  | ok found =>
    obtain ⟨s, rest⟩ := found
    obtain ⟨b, w, items, hb, hw, rfl, rfl⟩ := readString_eq_ok_iff.mp hread
    rwa [(hb.balanced.passes n).ends_append_iff, (hw.balanced.passes n).ends_append_iff] at h
  | error fault =>
    obtain ⟨d, rest, hskip, hends⟩ := exists_skipSpaces h
    unfold readString at hread
    rw [hskip] at hread
    simp only at hread
    split at hread
    · next hd =>
      subst hd
      have hinside : Ends ⟨n + 1, .inside⟩ rest :=
        ((Braces.passes_openingQuote n).ends_append_iff rest).mp hends
      unfold QuotedString.read at hread
      cases hitems : readItems rest with
      | ok found =>
        rw [hitems] at hread
        cases hread
      | error e =>
        rw [hitems] at hread
        cases hread
        exact inside_of_readItems hitems hinside
    · cases hread
      exact ⟨List.cons_ne_nil _ _, not_false⟩

theorem keeps_readMember (h : Ends ⟨n + 1, .outside⟩ text) :
    Keeps (fun found => Ends ⟨n + 1, .outside⟩ found.2) (readMember text) := by
  unfold readMember
  refine (keeps_readString h).bind ?_
  rintro ⟨tag, rest⟩ hrest
  refine (keeps_expect ':'.toNat hrest).bind fun rest hrest => ?_
  have hcolon : Balanced [':'.toNat] := .singleton (by decide) (by decide) (by decide)
  have hends : Ends ⟨n + 1, .outside⟩ rest :=
    ((hcolon.passes n).ends_append_iff rest).mp hrest
  split
  · exact (keeps_readString hends).bind fun _ hrest => hrest
  · obtain ⟨c, rest, hskip, -⟩ := exists_skipSpaces hends
    rw [hskip]
    exact ⟨List.cons_ne_nil _ _, not_false⟩

theorem Keeps.onto {m : Text × Text} {P : Text → Prop}
    {reading : Except Fault (List (Text × Text) × Text)}
    (h : Keeps (fun found => P found.2) reading) :
    Keeps (fun found => P found.2) (Text.onto m reading) := by
  cases reading with
  | ok found => exact h
  | error fault => exact h

theorem ends_behind_readMember {m : Text × Text} {rest : Text} (h : Ends ⟨n + 1, .outside⟩ text)
    (hread : readMember text = .ok (m, rest)) : Ends ⟨n + 1, .outside⟩ (skipSpaces rest) := by
  have hrest := keeps_readMember h
  rw [hread] at hrest
  exact ends_skipSpaces hrest

theorem keeps_readMembers (h : Ends ⟨n + 2, .outside⟩ text) :
    Keeps (fun found => Ends ⟨n + 1, .outside⟩ found.2) (readMembers text) := by
  have hcomma : Balanced [','.toNat] := .singleton (by decide) (by decide) (by decide)
  fun_induction readMembers text with
  | case1 text fault hread =>
    have hmember := keeps_readMember h
    rwa [hread] at hmember
  | case2 text m rest hread hskip =>
    exact absurd hskip (ends_behind_readMember h hread).ne_nil
  | case3 text m rest hread after hskip ih =>
    have hends := ends_behind_readMember h hread
    rw [hskip] at hends
    exact (ih (((hcomma.passes (n + 1)).ends_append_iff after).mp hends)).onto
  | case4 text m rest hread after hskip =>
    have hends := ends_behind_readMember h hread
    rw [hskip] at hends
    exact ((Braces.passes_closingBrace n).ends_append_iff after).mp hends
  | case5 => exact ⟨List.cons_ne_nil _ _, not_false⟩

theorem keeps_readCategories (h : Ends ⟨n + 1, .outside⟩ text) :
    Keeps (fun found => Ends ⟨n + 1, .outside⟩ found.2) (readCategories text) := by
  unfold readCategories
  refine (keeps_expect '{'.toNat h).bind fun rest hrest => ?_
  have hends : Ends ⟨n + 2, .outside⟩ rest :=
    ((Braces.passes_openingBrace (n + 1)).ends_append_iff rest).mp hrest
  obtain ⟨c, after, hskip, hends⟩ := exists_skipSpaces hends
  rw [hskip]
  simp only
  split
  · next hc =>
    subst hc
    exact ((Braces.passes_closingBrace n).ends_append_iff after).mp hends
  · exact keeps_readMembers hends

theorem keeps_readEnd (h : Ends ⟨1, .outside⟩ text) :
    Keeps (fun rest => rest = []) (readEnd text) := by
  unfold readEnd
  split
  · obtain ⟨c, rest, hskip, -⟩ := exists_skipSpaces h
    rw [hskip]
    exact ⟨List.cons_ne_nil _ _, not_false⟩
  · refine (keeps_expect '}'.toNat h).imp fun rest hrest => ?_
    unfold Ends at hrest
    rw [Braces.closing?_closingBrace] at hrest
    cases hrest
    rfl

theorem keeps_readRoot (h : Span text) : Keeps (fun found => found.2 = []) (readRoot text) := by
  have hends := h.ends
  obtain ⟨inner, -, rfl⟩ := h
  have hcolon : Balanced [':'.toNat] := .singleton (by decide) (by decide) (by decide)
  have hinner : Ends ⟨1, .outside⟩ (inner ++ ['}'.toNat]) :=
    ((Braces.passes_openingBrace 0).ends_append_iff _).mp hends
  have hexpect : expect '{'.toNat ('{'.toNat :: (inner ++ ['}'.toNat])) =
      .ok (inner ++ ['}'.toNat]) :=
    (expect_eq_ok_iff (by decide)).mpr ⟨[], by simp [Blank], rfl⟩
  unfold readRoot
  rw [hexpect]
  refine Keeps.bind (P := fun rest => Ends ⟨1, .outside⟩ rest) hinner fun rest hrest => ?_
  split
  · obtain ⟨c, after, hskip, -⟩ := exists_skipSpaces hrest
    rw [hskip]
    exact ⟨List.cons_ne_nil _ _, not_false⟩
  · refine (keeps_readString hrest).bind ?_
    rintro ⟨s, rest⟩ hrest
    refine (keeps_expect ':'.toNat hrest).bind fun rest hrest => ?_
    have hends : Ends ⟨1, .outside⟩ rest := ((hcolon.passes 0).ends_append_iff rest).mp hrest
    refine (keeps_readCategories hends).bind ?_
    rintro ⟨members, rest⟩ hrest
    exact (keeps_readEnd hrest).bind fun rest hrest => hrest

theorem keeps_readWhole (h : Span text) : Keeps (fun _ => True) (readWhole text) := by
  unfold readWhole
  refine (keeps_readRoot h).bind ?_
  rintro ⟨plural, rest⟩ hrest
  obtain rfl : rest = [] := hrest
  exact trivial

theorem offset_lt_of_span {body : Text} (h : Span body) {e : Malformed}
    (herror : parse body = .error e) : e.offset < body.length ∧ ¬e.reason.AtEnd := by
  obtain ⟨fault, hread, rfl⟩ := exists_of_parse_error herror
  have hkeeps := keeps_readWhole h
  rw [hread] at hkeeps
  obtain ⟨hleft, hreason⟩ := hkeeps
  refine ⟨?_, hreason⟩
  dsimp only
  rw [offset_of_ne fun heq => hreason (heq ▸ trivial)]
  exact Nat.sub_lt (List.length_pos_iff.mpr h.ends.ne_nil) (List.length_pos_iff.mpr hleft)

/-- The scan and the parser agree where an inline plural ends.  What the parser accepts between
braces is found as a whole; and what the scan finds is accepted, or faulted before its end. -/
theorem scan_parse_agree :
    (∀ (body : Text) (plural : InlinePlural), parse body = .ok plural →
      body.head? = some '{'.toNat → body.getLast? = some '}'.toNat → ∀ text,
        Piece.scan ('%'.toNat :: '<'.toNat :: (body ++ '>'.toNat :: text)) =
          .placeholder (.inline body) :: Piece.scan text) ∧
      ∀ text body, .placeholder (.inline body) ∈ Piece.scan text →
        (∃ plural, parse body = .ok plural) ∨ ∃ e, parse body = .error e ∧
          e.offset < body.length ∧ e.reason ≠ .string .unterminated ∧
          e.reason ≠ .trailingContent := by
  constructor
  · intro body plural hparse hhead hlast text
    have hspan : Span body := span_of_parse hparse hhead hlast
    have hscan : Piece.scan ((Placeholder.inline body).written ++ text) = _ :=
      Piece.scan_written hspan
    simpa [Placeholder.written, Placeholder.form] using hscan
  · intro text body hmem
    have hspan : Span body := (Piece.fits_of_mem_scan hmem).elim fun _ h => h
    cases hparse : parse body with
    | ok plural => exact .inl ⟨plural, rfl⟩
    | error e =>
      obtain ⟨hoffset, hreason⟩ := offset_lt_of_span hspan hparse
      refine .inr ⟨e, rfl, hoffset, ?_, ?_⟩
      · intro heq
        exact hreason (heq ▸ trivial)
      · intro heq
        exact hreason (heq ▸ trivial)

/-- An inline plural with one category is found as a whole; braces around nothing are found too, and
faulted at the closing one. -/
theorem scan_parse_agree_short :
    Piece.scan (lit "%<\x7b\"n\":\x7b\"one\":\"x\"\x7d\x7d>!") =
        .placeholder (.inline (lit "\x7b\"n\":\x7b\"one\":\"x\"\x7d\x7d")) ::
          Piece.scan (lit "!") ∧
      ∃ e, parse (lit "\x7b\x7d") = .error e ∧ e.offset < 2 ∧
        e.reason ≠ .string .unterminated ∧ e.reason ≠ .trailingContent := by
  constructor
  · exact scan_parse_agree.1 (lit "\x7b\"n\":\x7b\"one\":\"x\"\x7d\x7d")
      ⟨lit "n", [(lit "one", lit "x")]⟩ (by cbv) (by decide) (by decide) (lit "!")
  · have hspan : Span (lit "\x7b\x7d") := ⟨[], .nil, rfl⟩
    have hfits : (Placeholder.inline (lit "\x7b\x7d")).Fits [] := hspan
    have hmem : .placeholder (.inline (lit "\x7b\x7d")) ∈ Piece.scan (lit "%<\x7b\x7d>") := by
      have hscan : Piece.scan (lit "%<\x7b\x7d>") = _ := Piece.scan_written hfits
      rw [hscan]
      exact List.mem_cons_self
    rcases scan_parse_agree.2 _ _ hmem with ⟨plural, hparse⟩ | herror
    · have hrefused : (parse (lit "\x7b\x7d")).isOk = false := by cbv
      rw [hparse] at hrefused
      cases hrefused
    · exact herror

end Phrasebook.InlinePlural
