import Phrasebook.Proofs.Template.Canonical
import Phrasebook.Proofs.Template.InlineSpan

/-! Inline plurals written from data.  Whatever characters the count key, the tags and the templates
have, there is a body that spells them, and every such body comes back as the data it was written
from, between any literal text. -/

namespace Phrasebook

/-- The number of a character, which is no half of a surrogate pair. -/
def Text.IsScalar (c : Nat) : Prop := c < 0xD800 ∨ 0xE000 ≤ c ∧ c ≤ 0x10FFFF

namespace QuotedString

open Text (IsScalar)

/-- Items that write a text of characters: each character by one item, or by the escaped halves of
its surrogate pair. -/
inductive Spells : List Item → Text → Prop
  | nil : Spells [] []
  | one {item : Item} {c : Nat} {items : List Item} {text : Text} : item.Stands c → IsScalar c →
      Spells items text → Spells (item :: items) (c :: text)
  | pair {first second : Item} {high low : Nat} {items : List Item} {text : Text} :
      Halves first second high low → Spells items text →
      Spells (first :: second :: items)
        ((0x10000 + (high - 0xD800) * 0x400 + (low - 0xDC00)) :: text)

/-- An item that writes a character by itself is no half of a pair. -/
theorem Item.Stands.not_halves {item second : Item} {c high low : Nat} (h : item.Stands c)
    (hc : IsScalar c) : ¬Halves item second high low := by
  intro hhalves
  have hvalue : c = high :=
    (Item.stands_iff.mp h).1.symm.trans (Item.stands_iff.mp (.unit hhalves.first)).1
  have hhigh := hhalves.high
  unfold IsScalar at hc
  omega

theorem Spells.denotes {items : List Item} {text : Text} (h : Spells items text) :
    Denotes items text := by
  induction h with
  | nil => exact .nil
  | one hstands hscalar _ ih => exact .alone hstands (fun _ _ _ _ => hstands.not_halves hscalar) ih
  | pair hhalves _ ih => exact .pair hhalves ih

/-! ### The plainest spelling -/

/-- The digit that is worth `n` in base sixteen. -/
def hexDigit (n : Nat) : Nat := if n < 10 then '0'.toNat + n else 'a'.toNat + (n - 10)

theorem isHex_hexDigit {n : Nat} (h : n < 16) : IsHex (hexDigit n) n := by
  unfold hexDigit IsHex
  split <;> omega

/-- A character by itself, if it may stand in a string, or else escaped. -/
def Item.ofChar (c : Nat) : Item :=
  if c = '"'.toNat ∨ c = '\\'.toNat then .escape c
  else if c < 0x20 then .unit (hexDigit 0) (hexDigit 0) (hexDigit (c / 0x10)) (hexDigit (c % 0x10))
  else .plain c

theorem Item.stands_ofChar (c : Nat) : (ofChar c).Stands c := by
  unfold ofChar
  split
  · next h => exact .escape (by rcases h with rfl | rfl <;> simp [IsEscape])
  · next h =>
    split
    · have hunit : (Item.unit (hexDigit 0) (hexDigit 0) (hexDigit (c / 0x10))
          (hexDigit (c % 0x10))).IsUnit (0 * 0x1000 + 0 * 0x100 + c / 0x10 * 0x10 + c % 0x10) :=
        .mk (isHex_hexDigit (by omega)) (isHex_hexDigit (by omega)) (isHex_hexDigit (by omega))
          (isHex_hexDigit (by omega))
      rw [show 0 * 0x1000 + 0 * 0x100 + c / 0x10 * 0x10 + c % 0x10 = c by omega] at hunit
      exact .unit hunit
    · exact .plain (fun hc => h (.inl hc)) fun hc => h (.inr hc)

/-- Every text of characters has a spelling. -/
theorem spells_map_ofChar {text : Text} (h : ∀ c ∈ text, IsScalar c) :
    Spells (text.map Item.ofChar) text := by
  induction text with
  | nil => exact .nil
  | cons c text ih =>
    obtain ⟨hc, htext⟩ := List.forall_mem_cons.mp h
    exact .one (Item.stands_ofChar c) hc (ih htext)

end QuotedString

namespace InlinePlural

open QuotedString (Item Spells)
open Text (IsScalar)

/-- The body begins and ends with a brace, and its strings spell the count key and the categories of
the plural. -/
structure Spelled (allowed : Item → Prop) (body : Text) (plural : InlinePlural) : Prop where
  first : body.head? = some '{'.toNat
  last : body.getLast? = some '}'.toNat
  strings : ∃ key members, Body allowed body key members ∧ Spells key plural.countKey ∧
    List.Forall₂ (fun member category => Spells member.1 category.1 ∧ Spells member.2 category.2)
      members plural.categories

/-- A plural whose tags differ and whose strings are made of characters. -/
structure Writable (plural : InlinePlural) : Prop where
  nodup : (plural.categories.map Prod.fst).Nodup
  countKey : ∀ c ∈ plural.countKey, IsScalar c
  categories : ∀ category ∈ plural.categories, ∀ c ∈ category.1 ++ category.2, IsScalar c

/-! ### There is a body -/

theorem isJson_ofChar {c : Nat} (h : IsScalar c) : IsJson (Item.ofChar c) := by
  refine ⟨⟨c, Item.stands_ofChar c⟩, fun d hd => ?_⟩
  unfold Item.ofChar at hd
  split at hd
  · cases hd
  · split at hd
    · cases hd
    · cases hd
      unfold IsScalar at h
      omega

theorem str_map_ofChar {text : Text} (h : ∀ c ∈ text, IsScalar c) :
    ∃ w, Str IsJson w (text.map Item.ofChar) :=
  ⟨_, .mk (List.forall_mem_map.mpr fun c hc => isJson_ofChar (h c hc))⟩

/-- The items of a tag and a template. -/
def itemsOf (category : Text × Text) : List Item × List Item :=
  (category.1.map Item.ofChar, category.2.map Item.ofChar)

theorem member_itemsOf {category : Text × Text} (h : ∀ c ∈ category.1 ++ category.2, IsScalar c) :
    ∃ w, Member IsJson w (itemsOf category) := by
  obtain ⟨htag, htemplate⟩ := List.forall_mem_append.mp h
  obtain ⟨w, hw⟩ := str_map_ofChar htag
  obtain ⟨w', hw'⟩ := str_map_ofChar htemplate
  exact ⟨_, .mk hw blank_nil blank_nil hw'⟩

theorem members_map_itemsOf {categories : List (Text × Text)} (hne : categories ≠ [])
    (h : ∀ category ∈ categories, ∀ c ∈ category.1 ++ category.2, IsScalar c) :
    ∃ w, Members IsJson w (categories.map itemsOf) := by
  induction categories with
  | nil => exact absurd rfl hne
  | cons category categories ih =>
    obtain ⟨hcategory, hcategories⟩ := List.forall_mem_cons.mp h
    obtain ⟨w, hw⟩ := member_itemsOf hcategory
    cases categories with
    | nil => exact ⟨_, .one hw⟩
    | cons next categories =>
      obtain ⟨w', hw'⟩ := ih (List.cons_ne_nil _ _) hcategories
      exact ⟨_, .more hw blank_nil blank_nil hw'⟩

theorem categories_map_itemsOf {categories : List (Text × Text)}
    (h : ∀ category ∈ categories, ∀ c ∈ category.1 ++ category.2, IsScalar c) :
    ∃ w, Categories IsJson w (categories.map itemsOf) := by
  cases categories with
  | nil => exact ⟨_, .none blank_nil⟩
  | cons category categories =>
    obtain ⟨w, hw⟩ := members_map_itemsOf (List.cons_ne_nil category categories) h
    exact ⟨_, .some blank_nil hw blank_nil⟩

theorem Root.getLast? {allowed : Item → Prop} {w : Text} {key : List Item}
    {members : List (List Item × List Item)} (h : Root allowed w key members) :
    w.getLast? = some '}'.toNat := by
  obtain ⟨-, -, -, -, -, -⟩ := h
  simp [List.getLast?_append, List.getLast?_cons]

theorem Writable.exists_spelled {plural : InlinePlural} (h : plural.Writable) :
    ∃ body, Spelled IsJson body plural := by
  obtain ⟨w, hw⟩ := str_map_ofChar h.countKey
  obtain ⟨w', hw'⟩ := categories_map_itemsOf h.categories
  have hroot := Root.mk blank_nil hw blank_nil blank_nil hw' blank_nil
  have hbody := Body.mk blank_nil hroot blank_nil
  refine ⟨_, rfl, ?_, _, _, hbody, QuotedString.spells_map_ofChar h.countKey, ?_⟩
  · rw [List.append_nil, List.nil_append]
    exact hroot.getLast?
  · rw [List.forall₂_map_left_iff, List.forall₂_same]
    intro category hcategory
    obtain ⟨htag, htemplate⟩ := List.forall_mem_append.mp (h.categories category hcategory)
    exact ⟨QuotedString.spells_map_ofChar htag, QuotedString.spells_map_ofChar htemplate⟩

/-! ### Every body comes back -/

theorem put_of_not_mem {categories : List (Text × Text)} {m : Text × Text}
    (h : m.1 ∉ categories.map Prod.fst) : put categories m = categories ++ [m] := by
  induction categories with
  | nil => rfl
  | cons bound categories ih =>
    rw [List.map_cons, List.mem_cons, not_or] at h
    obtain ⟨htag, hrest⟩ := h
    rw [put, if_neg (Ne.symm htag), ih hrest, List.cons_append]

/-- Categories whose tags differ are bound as they are. -/
theorem foldl_put_of_nodup {categories : List (Text × Text)}
    (h : (categories.map Prod.fst).Nodup) : categories.foldl put [] = categories := by
  induction categories using List.reverseRecOn with
  | nil => rfl
  | append_singleton categories m ih =>
    rw [List.map_append, List.map_singleton, ← List.concat_eq_append, List.nodup_concat] at h
    rw [List.foldl_append, List.foldl_cons, List.foldl_nil, ih h.2, put_of_not_mem h.1]

theorem Spelled.parse {body : Text} {plural : InlinePlural}
    (h : Spelled Item.Valid body plural) (hnodup : (plural.categories.map Prod.fst).Nodup) :
    parse body = .ok plural := by
  obtain ⟨key, members, hbody, hkey, hmembers⟩ := h.strings
  obtain ⟨-, hvalid⟩ := hbody.forall_allowed
  have hread : members.map texts = plural.categories :=
    (forall₂_denotes_iff hvalid).mp
      (hmembers.imp fun _ _ hspells => ⟨hspells.1.denotes, hspells.2.denotes⟩)
  refine parse_eq_ok_iff.mpr ⟨key, members, hbody, ?_⟩
  rw [ofItems, hread, foldl_put_of_nodup hnodup, ← hkey.denotes.eq_decode]

end InlinePlural

/-- Literal text as a piece, if there is any. -/
def Piece.literals (text : Text) : List Piece := if text = [] then [] else [.literal text]

/-- Literal text as a segment, if there is any. -/
def Segment.literals (text : Text) : List Segment := if text = [] then [] else [.literal text]

/-- Doubled text around a placeholder is scanned as the literal text around it. -/
theorem Piece.scan_around {p : Placeholder} (before : Text) {behind : Text}
    (hp : p.Fits behind.doubled) :
    scan (before.doubled ++ p.written ++ behind.doubled) =
      literals before ++ .placeholder p :: literals behind := by
  have hbehind : scan behind.doubled = literals behind := by
    by_cases hnil : behind = []
    · subst hnil
      exact scan_nil
    · have hscan := scan_doubled_append hnil []
      rw [List.append_nil, scan_nil] at hscan
      rw [hscan, literals, if_neg hnil]
      rfl
  rw [List.append_assoc]
  by_cases hnil : before = []
  · subst hnil
    exact (scan_written hp).trans (congrArg (.placeholder p :: ·) hbehind)
  · have hbefore : literals before = [.literal before] := if_neg hnil
    rw [scan_doubled_append hnil, scan_written hp, hbehind, hbefore]
    rfl

theorem Template.parse_around {body : Text} {plural : InlinePlural}
    (hspan : Braces.Span body) (hparse : InlinePlural.parse body = .ok plural)
    (before behind : Text) :
    let source := before.doubled ++ (Segment.inline body plural).source ++ behind.doubled
    parse source =
      .ok ⟨source, Segment.literals before ++ .inline body plural :: Segment.literals behind⟩ := by
  intro source
  have hscan : Piece.scan source =
      Piece.literals before ++ .placeholder (.inline body) :: Piece.literals behind :=
    Piece.scan_around before hspan
  have hliterals : ∀ text, (Piece.literals text).mapM Segment.ofPiece =
      .ok (Segment.literals text) := by
    intro text
    unfold Piece.literals Segment.literals
    split <;> rfl
  have hinline : Segment.ofPiece (.placeholder (.inline body)) = .ok (.inline body plural) := by
    rw [Segment.ofPiece, Segment.ofPlaceholder, hparse]
    rfl
  rw [parse, hscan, List.mapM_append, List.mapM_cons, hliterals, hliterals, hinline]
  rfl

/-- Data come back from every body that spells them, and there is such a body, even one of strict
JSON, whatever characters are in the data. -/
theorem InlinePlural.spelled_round_trip {plural : InlinePlural} (h : plural.Writable) :
    (∃ body, Spelled IsJson body plural) ∧
      ∀ body, Spelled QuotedString.Item.Valid body plural → ∀ before behind : Text,
        let written := '%'.toNat :: '<'.toNat :: (body ++ ['>'.toNat])
        let source := before.doubled ++ written ++ behind.doubled
        Template.parse source = .ok ⟨source,
            Segment.literals before ++ .inline body plural :: Segment.literals behind⟩ ∧
          (Segment.inline body plural).source = written := by
  refine ⟨h.exists_spelled, fun body hbody before behind => ?_⟩
  have hparse := hbody.parse h.nodup
  have hspan := span_of_parse hparse hbody.first hbody.last
  exact ⟨Template.parse_around hspan hparse before behind, rfl⟩

open Text (lit)
open QuotedString (Item Spells Halves readItems readItems_eq_ok_iff)

/-- A tag with an escaped letter, and a template of an escaped pair of surrogates and the mark that
ends the placeholder. -/
theorem InlinePlural.spelled_round_trip_pair :
    let plural : InlinePlural := ⟨lit "n", [(lit "one", [0x1F600, '>'.toNat])]⟩
    let body := lit "\x7b\"n\": \x7b\"\\u006fne\":\"\\ud83d\\ude00>\"\x7d\x7d"
    plural.Writable ∧ Spelled QuotedString.Item.Valid body plural ∧
      Template.parse (lit "5%% %<" ++ body ++ lit ">") = .ok ⟨lit "5%% %<" ++ body ++ lit ">",
        [.literal (lit "5% "), .inline body plural]⟩ := by
  intro plural body
  have hwritable : plural.Writable := by
    refine ⟨by decide, ?_, ?_⟩
    · simp [plural, Text.IsScalar, lit]
    · simp only [plural, Text.IsScalar, lit, List.forall_mem_singleton]
      decide
  let key : List Item := [.plain 'n'.toNat]
  let tag : List Item := [.unit '0'.toNat '0'.toNat '6'.toNat 'f'.toNat, .plain 'n'.toNat,
    .plain 'e'.toNat]
  let template : List Item := [.unit 'd'.toNat '8'.toNat '3'.toNat 'd'.toNat,
    .unit 'd'.toNat 'e'.toNat '0'.toNat '0'.toNat, .plain '>'.toNat]
  have hvalid : ∀ {items : List Item}, readItems (items.flatMap Item.written ++ lit "\"") =
      .ok (items, []) → ∀ item ∈ items, item.Valid := fun h => (readItems_eq_ok_iff.mp h).1
  have hkey : ∀ item ∈ key, item.Valid := hvalid (by decide)
  have htag : ∀ item ∈ tag, item.Valid := hvalid (by decide)
  have htemplate : ∀ item ∈ template, item.Valid := hvalid (by decide)
  have hspace : Blank (lit " ") := by simp [Blank, lit]
  have hbody : Body Item.Valid body key [(tag, template)] :=
    .mk blank_nil (.mk blank_nil (.mk hkey) blank_nil hspace
      (.some blank_nil (.one (.mk (.mk htag) blank_nil blank_nil (.mk htemplate))) blank_nil)
      blank_nil) blank_nil
  have hone : ∀ {item : Item} {items : List Item} {text : Text}, item.Valid →
      item.value < 0xD800 → Spells items text → Spells (item :: items) (item.value :: text) :=
    fun hvalid hvalue => .one hvalid.stands (.inl hvalue)
  have hpair : Halves (.unit 'd'.toNat '8'.toNat '3'.toNat 'd'.toNat)
      (.unit 'd'.toNat 'e'.toNat '0'.toNat '0'.toNat) 0xD83D 0xDE00 :=
    ⟨Item.isUnit_iff.mpr ⟨_, _, _, _, rfl, by decide, rfl⟩,
      Item.isUnit_iff.mpr ⟨_, _, _, _, rfl, by decide, rfl⟩, by decide, by decide⟩
  have hspelled : Spelled Item.Valid body plural := by
    refine ⟨rfl, rfl, key, [(tag, template)], hbody, ?_, .cons ⟨?_, ?_⟩ .nil⟩
    · exact hone (hkey _ (by simp [key])) (by decide) .nil
    · exact hone (htag _ (by simp [tag])) (by decide) (hone (htag _ (by simp [tag])) (by decide)
        (hone (htag _ (by simp [tag])) (by decide) .nil))
    · have hvalue : 0x1F600 = 0x10000 + (0xD83D - 0xD800) * 0x400 + (0xDE00 - 0xDC00) := rfl
      show Spells template [0x1F600, '>'.toNat]
      rw [hvalue]
      exact .pair hpair (hone (htemplate _ (by simp [template])) (by decide) .nil)
  exact ⟨hwritable, hspelled, ((spelled_round_trip hwritable).2 body hspelled (lit "5% ") []).1⟩

end Phrasebook
