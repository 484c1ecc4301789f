import Mathlib.Data.List.Forall2
import Mathlib.Data.List.Induction
import Mathlib.Data.List.Nodup
import Mathlib.Data.List.TakeWhile
import Phrasebook.Proofs.Text.QuotedString
import Phrasebook.Template.InlinePlural

/-! Inline plurals as a grammar: what stands between the braces, and between the strings any spaces.
The parser accepts exactly the bodies of the grammar.  It answers with what the strings of the body
stand for, a category at its first mention and with its last template. -/

namespace Phrasebook.InlinePlural

open QuotedString (Item Denotes decode denotes_iff)
open Text (skipSpaces isSpace)

/-- Spaces, tabs, line feeds and carriage returns. -/
def Blank (text : Text) : Prop :=
  ∀ c ∈ text, c = ' '.toNat ∨ c = '\t'.toNat ∨ c = '\n'.toNat ∨ c = '\r'.toNat

/-! ### The grammar, over the items that a string may hold -/

section Grammar

variable (allowed : Item → Prop)

/-- A string in its quotation marks. -/
inductive Str : Text → List Item → Prop
  | mk {items : List Item} : (∀ item ∈ items, allowed item) →
      Str ('"'.toNat :: (items.flatMap Item.written ++ ['"'.toNat])) items

/-- A tag, a colon and a template. -/
inductive Member : Text → List Item × List Item → Prop
  | mk {w w' b b' : Text} {tag template : List Item} : Str allowed w tag → Blank b → Blank b' →
      Str allowed w' template → Member (w ++ (b ++ ':'.toNat :: (b' ++ w'))) (tag, template)

/-- Members with commas between them. -/
inductive Members : Text → List (List Item × List Item) → Prop
  | one {w : Text} {member : List Item × List Item} : Member allowed w member → Members w [member]
  | more {w w' b b' : Text} {member : List Item × List Item}
      {members : List (List Item × List Item)} : Member allowed w member → Blank b → Blank b' →
      Members w' members → Members (w ++ (b ++ ','.toNat :: (b' ++ w'))) (member :: members)

/-- The members, which may be none, in braces. -/
inductive Categories : Text → List (List Item × List Item) → Prop
  | none {b : Text} : Blank b → Categories ('{'.toNat :: (b ++ ['}'.toNat])) []
  | some {w b b' : Text} {members : List (List Item × List Item)} : Blank b →
      Members allowed w members → Blank b' →
      Categories ('{'.toNat :: (b ++ (w ++ (b' ++ ['}'.toNat])))) members

/-- The count key, a colon and the categories, in braces. -/
inductive Root : Text → List Item → List (List Item × List Item) → Prop
  | mk {w w' b₁ b₂ b₃ b₄ : Text} {key : List Item} {members : List (List Item × List Item)} :
      Blank b₁ → Str allowed w key → Blank b₂ → Blank b₃ → Categories allowed w' members →
      Blank b₄ → Root ('{'.toNat ::
        (b₁ ++ (w ++ (b₂ ++ ':'.toNat :: (b₃ ++ (w' ++ (b₄ ++ ['}'.toNat]))))))) key members

/-- An inline plural with spaces around it. -/
inductive Body : Text → List Item → List (List Item × List Item) → Prop
  | mk {w b b' : Text} {key : List Item} {members : List (List Item × List Item)} : Blank b →
      Root allowed w key members → Blank b' → Body (b ++ (w ++ b')) key members

end Grammar

theorem blank_nil : Blank [] := fun _ h => nomatch h

/-! ### The items of a body -/

section Items

variable {allowed allowed' : Item → Prop} {w : Text} {key items : List Item}
  {member : List Item × List Item} {members : List (List Item × List Item)}

theorem Str.forall_allowed (h : Str allowed w items) : ∀ item ∈ items, allowed item := by
  cases h with
  | mk hitems => exact hitems

theorem Member.forall_allowed (h : Member allowed w member) :
    ∀ item ∈ member.1 ++ member.2, allowed item := by
  cases h with
  | mk htag _ _ htemplate =>
    exact List.forall_mem_append.mpr ⟨htag.forall_allowed, htemplate.forall_allowed⟩

theorem Members.forall_allowed (h : Members allowed w members) :
    ∀ member ∈ members, ∀ item ∈ member.1 ++ member.2, allowed item := by
  induction h with
  | one hmember => exact List.forall_mem_singleton.mpr hmember.forall_allowed
  | more hmember _ _ _ ih => exact List.forall_mem_cons.mpr ⟨hmember.forall_allowed, ih⟩

theorem Body.forall_allowed (h : Body allowed w key members) : (∀ item ∈ key, allowed item) ∧
    ∀ member ∈ members, ∀ item ∈ member.1 ++ member.2, allowed item := by
  obtain ⟨_, ⟨_, hkey, _, _, hcategories, _⟩, _⟩ := h
  refine ⟨hkey.forall_allowed, ?_⟩
  cases hcategories with
  | none _ => exact fun _ h => nomatch h
  | some _ hmembers _ => exact hmembers.forall_allowed

variable (hallowed : ∀ item, allowed item → allowed' item)
include hallowed

theorem Str.mono (h : Str allowed w items) : Str allowed' w items := by
  cases h with
  | mk hitems => exact .mk fun item hitem => hallowed item (hitems item hitem)

theorem Member.mono (h : Member allowed w member) : Member allowed' w member := by
  cases h with
  | mk htag hb hb' htemplate => exact .mk (htag.mono hallowed) hb hb' (htemplate.mono hallowed)

theorem Members.mono (h : Members allowed w members) : Members allowed' w members := by
  induction h with
  | one hmember => exact .one (hmember.mono hallowed)
  | more hmember hb hb' _ ih => exact .more (hmember.mono hallowed) hb hb' ih

theorem Body.mono (h : Body allowed w key members) : Body allowed' w key members := by
  obtain ⟨hb, ⟨hb₁, hkey, hb₂, hb₃, hcategories, hb₄⟩, hb'⟩ := h
  refine .mk hb (.mk hb₁ (hkey.mono hallowed) hb₂ hb₃ ?_ hb₄) hb'
  cases hcategories with
  | none hb => exact .none hb
  | some hb hmembers hb' => exact .some hb (hmembers.mono hallowed) hb'

end Items

/-! ### Spaces and marks -/

theorem isSpace_iff {c : Nat} :
    isSpace c ↔ c = ' '.toNat ∨ c = '\t'.toNat ∨ c = '\n'.toNat ∨ c = '\r'.toNat := by
  simp only [isSpace, Bool.or_eq_true, beq_iff_eq, or_assoc]

theorem blank_takeWhile (text : Text) : Blank (text.takeWhile isSpace) :=
  fun _ hc => isSpace_iff.mp (List.mem_takeWhile_imp hc)

theorem skipSpaces_blank_append {b : Text} (hb : Blank b) (text : Text) :
    skipSpaces (b ++ text) = skipSpaces text := by
  unfold skipSpaces
  rw [List.dropWhile_append_of_pos fun c hc => isSpace_iff.mpr (hb c hc)]

theorem skipSpaces_blank_append_cons {b : Text} (hb : Blank b) {c : Nat} (hc : isSpace c = false)
    (rest : Text) : skipSpaces (b ++ c :: rest) = c :: rest := by
  rw [skipSpaces_blank_append hb]
  unfold skipSpaces
  rw [List.dropWhile_cons, if_neg (by simp [hc])]

theorem exists_blank_append {text rest : Text} (h : skipSpaces text = rest) :
    ∃ b, Blank b ∧ text = b ++ rest := by
  subst h
  exact ⟨_, blank_takeWhile text, List.takeWhile_append_dropWhile.symm⟩

theorem expect_eq_ok_iff {c : Nat} (hc : isSpace c = false) {text rest : Text} :
    expect c text = .ok rest ↔ ∃ b, Blank b ∧ text = b ++ c :: rest := by
  constructor
  · intro h
    unfold expect at h
    split at h
    · cases h
    · next d rest' hskip =>
      split at h
      · next hd =>
        cases h
        subst hd
        exact exists_blank_append hskip
      · cases h
  · rintro ⟨b, hb, rfl⟩
    unfold expect
    rw [skipSpaces_blank_append_cons hb hc]
    exact if_pos rfl

/-! ### The readers of the parts -/

theorem Str.eq_cons {w : Text} {items : List Item} (h : Str Item.Valid w items) :
    (∀ item ∈ items, item.Valid) ∧
      w = '"'.toNat :: (items.flatMap Item.written ++ ['"'.toNat]) := by
  cases h with
  | mk hitems => exact ⟨hitems, rfl⟩

theorem readString_eq_ok_iff {text rest s : Text} :
    readString text = .ok (s, rest) ↔ ∃ b w items, Blank b ∧ Str Item.Valid w items ∧
      decode items = s ∧ text = b ++ (w ++ rest) := by
  constructor
  · intro h
    unfold readString at h
    split at h
    · cases h
    · next d behind hskip =>
      split at h
      · next hd =>
        subst hd
        unfold QuotedString.read at h
        cases hread : QuotedString.readItems behind with
        | error fault => rw [hread] at h; cases h
        | ok found =>
          obtain ⟨items, rest'⟩ := found
          rw [hread] at h
          cases h
          obtain ⟨hitems, rfl⟩ := QuotedString.readItems_eq_ok_iff.mp hread
          obtain ⟨b, hb, rfl⟩ := exists_blank_append hskip
          refine ⟨b, _, items, hb, .mk hitems, rfl, ?_⟩
          rw [List.cons_append, List.append_assoc, List.singleton_append]
      · cases h
  · rintro ⟨b, w, items, hb, hw, rfl, rfl⟩
    obtain ⟨hitems, rfl⟩ := hw.eq_cons
    have hread := QuotedString.readItems_flatMap_written hitems rest
    unfold readString
    rw [List.cons_append, skipSpaces_blank_append_cons hb (by decide)]
    simp only [if_true, List.append_assoc, List.singleton_append, QuotedString.read, hread]
    rfl

theorem bind_eq_ok_iff {α β : Type} {reading : Except Fault α} {next : α → Except Fault β} {b : β} :
    reading >>= next = .ok b ↔ ∃ a, reading = .ok a ∧ next a = .ok b := by
  constructor
  · intro h
    cases reading with
    | error fault => cases h
    | ok a => exact ⟨a, rfl, h⟩
  · rintro ⟨a, rfl, h⟩
    exact h

/-- What the strings of a member stand for. -/
def texts (member : List Item × List Item) : Text × Text := (decode member.1, decode member.2)

theorem head?_skipSpaces_of_readString {text rest s : Text} (h : readString text = .ok (s, rest)) :
    (skipSpaces text).head? = some '"'.toNat := by
  unfold readString at h
  split at h
  · cases h
  · next d behind hskip =>
    split at h
    · next hd => rw [hskip, hd, List.head?_cons]
    · cases h

theorem readMember_eq_ok_iff {text rest : Text} {m : Text × Text} :
    readMember text = .ok (m, rest) ↔ ∃ b w member, Blank b ∧ Member Item.Valid w member ∧
      texts member = m ∧ text = b ++ (w ++ rest) := by
  have hcolon : isSpace ':'.toNat = false := by decide
  constructor
  · intro h
    unfold readMember at h
    obtain ⟨⟨s, rest₁⟩, htag, h⟩ := bind_eq_ok_iff.mp h
    obtain ⟨rest₂, hexpect, h⟩ := bind_eq_ok_iff.mp h
    split at h
    · obtain ⟨⟨s', rest₃⟩, htemplate, h⟩ := bind_eq_ok_iff.mp h
      cases h
      obtain ⟨b, w, tag, hb, hw, rfl, rfl⟩ := readString_eq_ok_iff.mp htag
      obtain ⟨b', hb', rfl⟩ := (expect_eq_ok_iff hcolon).mp hexpect
      obtain ⟨b'', w', template, hb'', hw', rfl, rfl⟩ := readString_eq_ok_iff.mp htemplate
      refine ⟨b, _, (tag, template), hb, .mk hw hb' hb'' hw', rfl, ?_⟩
      simp only [List.append_assoc, List.cons_append]
    · cases h
  · rintro ⟨b, _, _, hb, @⟨w, w', b', b'', tag, template, hw, hb', hb'', hw'⟩, rfl, rfl⟩
    have htag : readString (b ++ (w ++ (b' ++ ':'.toNat :: (b'' ++ (w' ++ rest))))) =
        .ok (decode tag, b' ++ ':'.toNat :: (b'' ++ (w' ++ rest))) :=
      readString_eq_ok_iff.mpr ⟨b, w, tag, hb, hw, rfl, rfl⟩
    have hexpect : expect ':'.toNat (b' ++ ':'.toNat :: (b'' ++ (w' ++ rest))) =
        .ok (b'' ++ (w' ++ rest)) :=
      (expect_eq_ok_iff hcolon).mpr ⟨b', hb', rfl⟩
    have htemplate : readString (b'' ++ (w' ++ rest)) = .ok (decode template, rest) :=
      readString_eq_ok_iff.mpr ⟨b'', w', template, hb'', hw', rfl, rfl⟩
    unfold readMember
    simp only [List.append_assoc, List.cons_append]
    refine bind_eq_ok_iff.mpr ⟨_, htag, bind_eq_ok_iff.mpr ⟨_, hexpect, ?_⟩⟩
    rw [if_pos (head?_skipSpaces_of_readString htemplate)]
    exact bind_eq_ok_iff.mpr ⟨_, htemplate, rfl⟩

theorem readMembers_of_comma {text rest after : Text} {m : Text × Text}
    (h : readMember text = .ok (m, rest)) (hrest : skipSpaces rest = ','.toNat :: after) :
    readMembers text = Text.onto m (readMembers after) := by
  rw [readMembers.eq_def]
  split
  · next h' => rw [h] at h'; cases h'
  · next h' =>
    rw [h] at h'
    cases h'
    split
    · next hnil => rw [hrest] at hnil; cases hnil
    · next hcons =>
      rw [hrest] at hcons
      cases hcons
      rw [if_pos rfl]

theorem readMembers_of_brace {text rest after : Text} {m : Text × Text}
    (h : readMember text = .ok (m, rest)) (hrest : skipSpaces rest = '}'.toNat :: after) :
    readMembers text = .ok ([m], after) := by
  rw [readMembers.eq_def]
  split
  · next h' => rw [h] at h'; cases h'
  · next h' =>
    rw [h] at h'
    cases h'
    split
    · next hnil => rw [hrest] at hnil; cases hnil
    · next hcons =>
      rw [hrest] at hcons
      cases hcons
      rw [if_neg (by decide), if_pos rfl]

theorem readMembers_eq_ok_iff {text rest : Text} {read : List (Text × Text)} :
    readMembers text = .ok (read, rest) ↔ ∃ b w b' members, Blank b ∧
      Members Item.Valid w members ∧ Blank b' ∧ members.map texts = read ∧
      text = b ++ (w ++ (b' ++ '}'.toNat :: rest)) := by
  constructor
  · -- along the recursion of the reader
    intro h
    fun_induction readMembers text generalizing read with
    | case1 => cases h
    | case2 => cases h
    | case3 text m _ hm after hskip ih =>
      obtain ⟨read', hread, rfl⟩ := Text.onto_eq_ok_iff.mp h
      obtain ⟨b, w, member, hb, hw, rfl, rfl⟩ := readMember_eq_ok_iff.mp hm
      obtain ⟨b₁, hb₁, rfl⟩ := exists_blank_append hskip
      obtain ⟨b₂, w', b', members, hb₂, hw', hb', rfl, rfl⟩ := ih hread
      refine ⟨b, _, b', member :: members, hb, .more hw hb₁ hb₂ hw', hb', rfl, ?_⟩
      simp only [List.append_assoc, List.cons_append]
    | case4 text m _ hm after hskip =>
      cases h
      obtain ⟨b, w, member, hb, hw, rfl, rfl⟩ := readMember_eq_ok_iff.mp hm
      obtain ⟨b', hb', rfl⟩ := exists_blank_append hskip
      exact ⟨b, w, b', [member], hb, .one hw, hb', rfl, rfl⟩
    | case5 => cases h
  · -- along the members; the spaces before the first one change from step to step
    rintro ⟨b, w, b', members, hb, hw, hb', rfl, rfl⟩
    induction hw generalizing b with
    | @one w member hmember =>
      exact readMembers_of_brace (readMember_eq_ok_iff.mpr ⟨b, w, member, hb, hmember, rfl, rfl⟩)
        (skipSpaces_blank_append_cons hb' (by decide) rest)
    | @more w w' b₁ b₂ member members hmember hb₁ hb₂ _ ih =>
      simp only [List.append_assoc, List.cons_append]
      rw [readMembers_of_comma
        (readMember_eq_ok_iff.mpr ⟨b, w, member, hb, hmember, rfl, rfl⟩)
        (skipSpaces_blank_append_cons hb₁ (by decide) _), ih b₂ hb₂]
      rfl

theorem Members.exists_quote {allowed : Item → Prop} {w : Text}
    {members : List (List Item × List Item)} (h : Members allowed w members) :
    ∃ w', w = '"'.toNat :: w' := by
  cases h with
  | one hmember =>
    obtain ⟨⟨_⟩, _, _, _⟩ := hmember
    exact ⟨_, rfl⟩
  | more hmember _ _ _ =>
    obtain ⟨⟨_⟩, _, _, _⟩ := hmember
    exact ⟨_, rfl⟩

theorem Blank.append {b b' : Text} (hb : Blank b) (hb' : Blank b') : Blank (b ++ b') := by
  intro c hc
  rcases List.mem_append.mp hc with h | h
  · exact hb c h
  · exact hb' c h

theorem readCategories_eq_ok_iff {text rest : Text} {read : List (Text × Text)} :
    readCategories text = .ok (read, rest) ↔ ∃ b w members, Blank b ∧
      Categories Item.Valid w members ∧ members.map texts = read ∧ text = b ++ (w ++ rest) := by
  have hbrace : isSpace '{'.toNat = false := by decide
  constructor
  · intro h
    rw [readCategories, bind_eq_ok_iff] at h
    obtain ⟨rest₁, hexpect, h⟩ := h
    obtain ⟨b, hb, rfl⟩ := (expect_eq_ok_iff hbrace).mp hexpect
    split at h
    · obtain ⟨_, _, _, _, _, _, _, _, hnil⟩ := readMembers_eq_ok_iff.mp h
      simp at hnil
    · next c after hskip =>
      obtain ⟨b₁, hb₁, rfl⟩ := exists_blank_append hskip
      split at h
      · next hc =>
        cases h
        subst hc
        refine ⟨b, _, [], hb, .none hb₁, rfl, ?_⟩
        simp only [List.append_assoc, List.cons_append, List.nil_append]
      · obtain ⟨b₂, w, b', members, hb₂, hw, hb', rfl, heq⟩ := readMembers_eq_ok_iff.mp h
        refine ⟨b, _, members, hb, .some (hb₁.append hb₂) hw hb', rfl, ?_⟩
        simp only [heq, List.append_assoc, List.cons_append, List.nil_append]
  · rintro ⟨b, w, members, hb, hw, rfl, rfl⟩
    unfold readCategories
    cases hw with
    | @none b₁ hb₁ =>
      simp only [List.append_assoc, List.cons_append, List.nil_append]
      refine bind_eq_ok_iff.mpr ⟨_, (expect_eq_ok_iff hbrace).mpr ⟨b, hb, rfl⟩, ?_⟩
      rw [skipSpaces_blank_append_cons hb₁ (by decide)]
      rfl
    | @some w b₁ b' _ hb₁ hw hb' =>
      have hread : readMembers (w ++ (b' ++ '}'.toNat :: rest)) = .ok (members.map texts, rest) :=
        readMembers_eq_ok_iff.mpr ⟨[], w, b', members, by simp [Blank], hw, hb', rfl, rfl⟩
      simp only [List.append_assoc, List.cons_append, List.nil_append]
      refine bind_eq_ok_iff.mpr ⟨_, (expect_eq_ok_iff hbrace).mpr ⟨b, hb, rfl⟩, ?_⟩
      obtain ⟨w', rfl⟩ := hw.exists_quote
      rw [List.cons_append, skipSpaces_blank_append_cons hb₁ (by decide)]
      simp only [if_neg (show '"'.toNat ≠ '}'.toNat by decide)]
      exact hread

theorem readEnd_eq_ok_iff {text rest : Text} :
    readEnd text = .ok rest ↔ ∃ b, Blank b ∧ text = b ++ '}'.toNat :: rest := by
  rw [← expect_eq_ok_iff (by decide)]
  unfold readEnd
  split
  · next hcomma =>
    constructor
    · intro h
      cases h
    · intro h
      obtain ⟨b, hb, rfl⟩ := (expect_eq_ok_iff (by decide)).mp h
      rw [skipSpaces_blank_append_cons hb (by decide)] at hcomma
      cases hcomma
  · exact Iff.rfl

/-- The inline plural with the count key and the members in the order of a body. -/
def ofItems (key : List Item) (members : List (List Item × List Item)) : InlinePlural :=
  ⟨decode key, (members.map texts).foldl put []⟩

theorem readRoot_eq_ok_iff {text rest : Text} {plural : InlinePlural} :
    readRoot text = .ok (plural, rest) ↔ ∃ b w key members, Blank b ∧
      Root Item.Valid w key members ∧ ofItems key members = plural ∧ text = b ++ (w ++ rest) := by
  have hbrace : isSpace '{'.toNat = false := by decide
  have hcolon : isSpace ':'.toNat = false := by decide
  constructor
  · intro h
    unfold readRoot at h
    obtain ⟨rest₁, hexpect, h⟩ := bind_eq_ok_iff.mp h
    split at h
    · cases h
    · obtain ⟨⟨s, rest₂⟩, hkey, h⟩ := bind_eq_ok_iff.mp h
      obtain ⟨rest₃, hexpect', h⟩ := bind_eq_ok_iff.mp h
      obtain ⟨⟨read, rest₄⟩, hcategories, h⟩ := bind_eq_ok_iff.mp h
      obtain ⟨rest₅, hend, h⟩ := bind_eq_ok_iff.mp h
      cases h
      obtain ⟨b, hb, rfl⟩ := (expect_eq_ok_iff hbrace).mp hexpect
      obtain ⟨b₁, w, key, hb₁, hw, rfl, rfl⟩ := readString_eq_ok_iff.mp hkey
      obtain ⟨b₂, hb₂, rfl⟩ := (expect_eq_ok_iff hcolon).mp hexpect'
      obtain ⟨b₃, w', members, hb₃, hw', rfl, rfl⟩ := readCategories_eq_ok_iff.mp hcategories
      obtain ⟨b₄, hb₄, rfl⟩ := readEnd_eq_ok_iff.mp hend
      refine ⟨b, _, key, members, hb, .mk hb₁ hw hb₂ hb₃ hw' hb₄, rfl, ?_⟩
      simp only [List.append_assoc, List.cons_append, List.nil_append]
  · rintro ⟨b, _, key, members, hb,
      @⟨w, w', b₁, b₂, b₃, b₄, _, _, hb₁, hw, hb₂, hb₃, hw', hb₄⟩, rfl, rfl⟩
    unfold readRoot
    simp only [List.append_assoc, List.cons_append, List.nil_append]
    have hkey : readString
        (b₁ ++ (w ++ (b₂ ++ ':'.toNat :: (b₃ ++ (w' ++ (b₄ ++ '}'.toNat :: rest)))))) =
        .ok (decode key, b₂ ++ ':'.toNat :: (b₃ ++ (w' ++ (b₄ ++ '}'.toNat :: rest)))) :=
      readString_eq_ok_iff.mpr ⟨b₁, w, key, hb₁, hw, rfl, rfl⟩
    refine bind_eq_ok_iff.mpr ⟨_, (expect_eq_ok_iff hbrace).mpr ⟨b, hb, rfl⟩, ?_⟩
    rw [head?_skipSpaces_of_readString hkey, if_neg (by decide)]
    refine bind_eq_ok_iff.mpr ⟨_, hkey, ?_⟩
    refine bind_eq_ok_iff.mpr ⟨_, (expect_eq_ok_iff hcolon).mpr ⟨b₂, hb₂, rfl⟩, ?_⟩
    refine bind_eq_ok_iff.mpr
      ⟨_, readCategories_eq_ok_iff.mpr ⟨b₃, w', members, hb₃, hw', rfl, rfl⟩, ?_⟩
    exact bind_eq_ok_iff.mpr ⟨_, readEnd_eq_ok_iff.mpr ⟨b₄, hb₄, rfl⟩, rfl⟩

theorem readWhole_eq_ok_iff {body : Text} {plural : InlinePlural} :
    readWhole body = .ok plural ↔ ∃ key members,
      Body Item.Valid body key members ∧ ofItems key members = plural := by
  constructor
  · intro h
    rw [readWhole, bind_eq_ok_iff] at h
    obtain ⟨⟨plural', rest⟩, hroot, h⟩ := h
    obtain ⟨b, w, key, members, hb, hw, rfl, rfl⟩ := readRoot_eq_ok_iff.mp hroot
    simp only at h
    split at h
    · next hskip =>
      cases h
      obtain ⟨b', hb', rfl⟩ := exists_blank_append hskip
      rw [List.append_nil]
      exact ⟨key, members, .mk hb hw hb', rfl⟩
    · cases h
  · rintro ⟨key, members, @⟨w, b, b', _, _, hb, hw, hb'⟩, rfl⟩
    have hskip : skipSpaces b' = [] := by
      have h := skipSpaces_blank_append hb' []
      rwa [List.append_nil] at h
    unfold readWhole
    refine bind_eq_ok_iff.mpr
      ⟨_, readRoot_eq_ok_iff.mpr ⟨b, w, key, members, hb, hw, rfl, rfl⟩, ?_⟩
    simp only [hskip]
    rfl

theorem parse_eq_ok_iff_readWhole {body : Text} {plural : InlinePlural} :
    parse body = .ok plural ↔ readWhole body = .ok plural := by
  unfold parse
  cases readWhole body with
  | error fault => simp [Except.mapError]
  | ok plural' => simp [Except.mapError]

theorem parse_eq_ok_iff {body : Text} {plural : InlinePlural} :
    parse body = .ok plural ↔ ∃ key members,
      Body Item.Valid body key members ∧ ofItems key members = plural :=
  parse_eq_ok_iff_readWhole.trans readWhole_eq_ok_iff

theorem exists_of_parse_error {body : Text} {e : Malformed} (h : parse body = .error e) :
    ∃ fault, readWhole body = .error fault ∧ e = ⟨body, offset body fault, fault.1⟩ := by
  unfold parse at h
  cases hread : readWhole body with
  | error fault =>
    rw [hread] at h
    cases h
    exact ⟨fault, rfl, rfl⟩
  | ok plural =>
    rw [hread] at h
    cases h

theorem offset_of_ne {body : Text} {fault : Fault} (h : fault.1 ≠ .string (.invalidEscape none)) :
    offset body fault = body.length - fault.2.length := by
  unfold offset
  split
  · exact absurd rfl h
  · rfl

/-! ### The categories of the members -/

theorem map_fst_put (categories : List (Text × Text)) (m : Text × Text) :
    (put categories m).map Prod.fst = if m.1 ∈ categories.map Prod.fst then
      categories.map Prod.fst else categories.map Prod.fst ++ [m.1] := by
  induction categories with
  | nil => rfl
  | cons bound categories ih =>
    obtain ⟨tag, template⟩ := bound
    unfold put
    by_cases htag : tag = m.1
    · simp [htag]
    · rw [if_neg htag, List.map_cons, ih]
      by_cases hm : m.1 ∈ categories.map Prod.fst
      · simp [hm]
      · simp [hm, Ne.symm htag]

theorem lookup_cons_eq_ite (m : Text × Text) (categories : List (Text × Text)) (tag : Text) :
    (m :: categories).lookup tag = if tag = m.1 then some m.2 else categories.lookup tag := by
  obtain ⟨tag', template⟩ := m
  by_cases htag : tag = tag'
  · subst htag
    rw [List.lookup_cons_self, if_pos rfl]
  · rw [List.lookup_cons, beq_false_of_ne htag, if_neg htag]

theorem lookup_put (categories : List (Text × Text)) (m : Text × Text) (tag : Text) :
    (put categories m).lookup tag = if tag = m.1 then some m.2 else categories.lookup tag := by
  induction categories with
  | nil => exact lookup_cons_eq_ite m [] tag
  | cons bound categories ih =>
    obtain ⟨tag', template⟩ := bound
    unfold put
    rw [lookup_cons_eq_ite]
    by_cases hm : tag' = m.1
    · subst hm
      rw [if_pos rfl, lookup_cons_eq_ite]
      split
      · rfl
      · rfl
    · rw [if_neg hm, lookup_cons_eq_ite, ih]
      by_cases htag : tag = tag'
      · rw [if_pos htag, if_pos htag, if_neg (htag ▸ hm)]
      · rw [if_neg htag, if_neg htag]

theorem map_fst_foldl_put (read : List (Text × Text)) :
    (read.foldl put []).map Prod.fst = (read.map Prod.fst).eraseDups := by
  induction read using List.reverseRecOn with
  | nil => rfl
  | append_singleton read m ih =>
    rw [List.foldl_append, List.foldl_cons, List.foldl_nil, map_fst_put, ih, List.map_append,
      List.eraseDups_append]
    by_cases hm : m.1 ∈ read.map Prod.fst
    · rw [if_pos (List.mem_eraseDups.mpr hm)]
      simp [List.removeAll, hm]
    · rw [if_neg fun h => hm (List.mem_eraseDups.mp h)]
      simp [List.removeAll, hm, List.eraseDups_cons]

theorem nodup_foldl_put (read : List (Text × Text)) :
    ((read.foldl put []).map Prod.fst).Nodup := by
  induction read using List.reverseRecOn with
  | nil => exact List.nodup_nil
  | append_singleton read m ih =>
    rw [List.foldl_append, List.foldl_cons, List.foldl_nil, map_fst_put]
    split
    · exact ih
    · next hm =>
      rw [← List.concat_eq_append]
      exact List.Nodup.concat hm ih

theorem lookup_foldl_put (read : List (Text × Text)) (tag : Text) :
    (read.foldl put []).lookup tag = read.reverse.lookup tag := by
  induction read using List.reverseRecOn with
  | nil => rfl
  | append_singleton read m ih =>
    rw [List.foldl_append, List.foldl_cons, List.foldl_nil, lookup_put, ih, List.reverse_append,
      List.reverse_singleton, List.singleton_append, lookup_cons_eq_ite]

theorem lookup_eq_none_of_not_mem {categories : List (Text × Text)} {tag : Text}
    (h : tag ∉ categories.map Prod.fst) : categories.lookup tag = none := by
  rw [List.lookup_eq_none_iff]
  intro bound hbound
  have hne : tag ≠ bound.1 := fun heq => h (List.mem_map.mpr ⟨bound, hbound, heq.symm⟩)
  simp [hne]

/-- Categories are determined by the order of their tags and the template of each. -/
theorem eq_of_lookup_eq {categories categories' : List (Text × Text)}
    (hnodup : (categories.map Prod.fst).Nodup)
    (htags : categories.map Prod.fst = categories'.map Prod.fst)
    (hlookup : ∀ tag, categories.lookup tag = categories'.lookup tag) :
    categories = categories' := by
  induction categories generalizing categories' with
  | nil => exact (List.map_eq_nil_iff.mp htags.symm).symm
  | cons bound categories ih =>
    obtain ⟨tag, template⟩ := bound
    obtain ⟨⟨tag', template'⟩, categories'', rfl, rfl, htags'⟩ :=
      List.map_eq_cons_iff.mp htags.symm
    obtain ⟨hfresh, hnodup⟩ := List.nodup_cons.mp hnodup
    have htemplate := hlookup tag'
    simp only [lookup_cons_eq_ite, if_true, Option.some.injEq] at htemplate
    rw [htemplate, ih hnodup htags'.symm]
    intro t
    by_cases ht : t = tag'
    · subst ht
      have hnone : categories.lookup t = none := lookup_eq_none_of_not_mem hfresh
      have hnone' : categories''.lookup t = none := lookup_eq_none_of_not_mem (htags' ▸ hfresh)
      rw [hnone, hnone']
    · have hrest := hlookup t
      simpa only [lookup_cons_eq_ite, if_neg ht] using hrest

/-! ### What a body declares -/

/-- The inline plural of a count key and members.  A category stands where its tag is mentioned
first, and its last template counts. -/
structure Declares (key : List Item) (members : List (List Item × List Item))
    (plural : InlinePlural) : Prop where
  countKey : Denotes key plural.countKey
  categories : ∃ read,
    List.Forall₂ (fun member m => Denotes member.1 m.1 ∧ Denotes member.2 m.2) members read ∧
      plural.categories.map Prod.fst = (read.map Prod.fst).eraseDups ∧
      ∀ tag, plural.categories.lookup tag = read.reverse.lookup tag

/-- An item that stands in a JSON string: no control character stands for itself. -/
def IsJson (item : Item) : Prop :=
  item.Valid ∧ ∀ c, item = .plain c → 0x20 ≤ c ∧ c ≤ 0x10FFFF

theorem forall₂_denotes_iff {members : List (List Item × List Item)} {read : List (Text × Text)}
    (h : ∀ member ∈ members, ∀ item ∈ member.1 ++ member.2, item.Valid) :
    List.Forall₂ (fun member m => Denotes member.1 m.1 ∧ Denotes member.2 m.2) members read ↔
      members.map texts = read := by
  induction members generalizing read with
  | nil => simp [eq_comm]
  | cons member members ih =>
    obtain ⟨hmember, hmembers⟩ := List.forall_mem_cons.mp h
    obtain ⟨htag, htemplate⟩ := List.forall_mem_append.mp hmember
    rw [List.forall₂_cons_left_iff, List.map_cons]
    simp only [ih hmembers, denotes_iff htag, denotes_iff htemplate]
    constructor
    · rintro ⟨m, _, ⟨htag, htemplate⟩, rfl, rfl⟩
      rw [texts, htag, htemplate]
    · rintro rfl
      exact ⟨_, _, ⟨rfl, rfl⟩, rfl, rfl⟩

theorem declares_iff {body : Text} {key : List Item} {members : List (List Item × List Item)}
    (h : Body Item.Valid body key members) {plural : InlinePlural} :
    Declares key members plural ↔ ofItems key members = plural := by
  obtain ⟨hkey, hmembers⟩ := h.forall_allowed
  constructor
  · rintro ⟨hcount, read, hread, htags, hlookup⟩
    rw [denotes_iff hkey] at hcount
    rw [forall₂_denotes_iff hmembers] at hread
    subst hread
    have hcategories : (members.map texts).foldl put [] = plural.categories := by
      refine eq_of_lookup_eq (nodup_foldl_put _) ?_ ?_
      · rw [map_fst_foldl_put, htags]
      · intro tag
        rw [lookup_foldl_put, hlookup]
    unfold ofItems
    rw [hcount, hcategories]
  · rintro rfl
    exact ⟨(denotes_iff hkey).mpr rfl, members.map texts, (forall₂_denotes_iff hmembers).mpr rfl,
      map_fst_foldl_put _, lookup_foldl_put _⟩

/-- Exactly the bodies of the grammar are accepted, each as what it declares; and with them every
body whose strings are JSON strings. -/
theorem parse_ok_iff_body (body : Text) :
    ((∃ plural, parse body = .ok plural) ↔ ∃ key members, Body Item.Valid body key members) ∧
      (∀ key members, Body Item.Valid body key members →
        ∀ plural, parse body = .ok plural ↔ Declares key members plural) ∧
      ∀ key members, Body IsJson body key members →
        ∃ plural, parse body = .ok plural ∧ Declares key members plural := by
  have hparse : ∀ key members, Body Item.Valid body key members →
      parse body = .ok (ofItems key members) :=
    fun key members h => parse_eq_ok_iff.mpr ⟨key, members, h, rfl⟩
  refine ⟨⟨?_, ?_⟩, ?_, ?_⟩
  · rintro ⟨plural, h⟩
    obtain ⟨key, members, hbody, -⟩ := parse_eq_ok_iff.mp h
    exact ⟨key, members, hbody⟩
  · rintro ⟨key, members, h⟩
    exact ⟨_, hparse key members h⟩
  · intro key members h plural
    rw [hparse key members h, declares_iff h, Except.ok.injEq]
  · intro key members h
    have hvalid : Body Item.Valid body key members := h.mono fun _ => And.left
    exact ⟨_, hparse key members hvalid, (declares_iff hvalid).mpr rfl⟩

end Phrasebook.InlinePlural
