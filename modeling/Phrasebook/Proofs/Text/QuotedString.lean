import Phrasebook.Text.QuotedString

/-! Strings between double quotes as a grammar.  Its items stand for code points, alone or as the
halves of a surrogate pair; the reader takes exactly the strings of the grammar, each to the text
that its items stand for. -/

namespace Phrasebook.QuotedString

open Text (onto onto_eq_ok_iff)

/-- The item as it is written. -/
def Item.written : Item → Text
  | .plain c => [c]
  | .escape letter => ['\\'.toNat, letter]
  | .unit a b c d => ['\\'.toNat, 'u'.toNat, a, b, c, d]

/-- The digit `c` is worth `n` in base sixteen. -/
def IsHex (c n : Nat) : Prop :=
  n < 10 ∧ c = '0'.toNat + n ∨
    10 ≤ n ∧ n < 16 ∧ (c = 'a'.toNat + (n - 10) ∨ c = 'A'.toNat + (n - 10))

/-- A backslash and `letter` write the character `c`. -/
def IsEscape (letter c : Nat) : Prop :=
  (letter, c) ∈ [('"'.toNat, '"'.toNat), ('\\'.toNat, '\\'.toNat), ('/'.toNat, '/'.toNat),
    ('b'.toNat, 0x08), ('f'.toNat, 0x0C), ('n'.toNat, 0x0A), ('r'.toNat, 0x0D), ('t'.toNat, 0x09)]

/-- The item is an escaped unit, whose four digits write `u` in base sixteen. -/
inductive Item.IsUnit : Item → Nat → Prop
  | mk {a b c d p q r s : Nat} : IsHex a p → IsHex b q → IsHex c r → IsHex d s →
      IsUnit (.unit a b c d) (p * 0x1000 + q * 0x100 + r * 0x10 + s)

/-- The item may stand in a string, and alone it stands for the code point `c`. -/
inductive Item.Stands : Item → Nat → Prop
  | plain {c : Nat} : c ≠ '"'.toNat → c ≠ '\\'.toNat → Stands (.plain c) c
  | escape {letter c : Nat} : IsEscape letter c → Stands (.escape letter) c
  | unit {item : Item} {u : Nat} : item.IsUnit u → Stands item u

/-- The item may stand in a string. -/
def Item.Valid (item : Item) : Prop := ∃ c, item.Stands c

/-- The items are escaped units, a high surrogate and a low one. -/
structure Halves (first second : Item) (high low : Nat) : Prop where
  first : first.IsUnit high
  second : second.IsUnit low
  high : 0xD800 ≤ high ∧ high ≤ 0xDBFF
  low : 0xDC00 ≤ low ∧ low ≤ 0xDFFF

/-- The text that items stand for: an escaped high surrogate and an escaped low one right after it
stand for one code point, and every other item stands for its own. -/
inductive Denotes : List Item → Text → Prop
  | nil : Denotes [] []
  | pair {first second : Item} {high low : Nat} {items : List Item} {text : Text} :
      Halves first second high low → Denotes items text →
      Denotes (first :: second :: items)
        ((0x10000 + (high - 0xD800) * 0x400 + (low - 0xDC00)) :: text)
  | alone {item : Item} {c : Nat} {items : List Item} {text : Text} : item.Stands c →
      (∀ second high low, items.head? = some second → ¬Halves item second high low) →
      Denotes items text → Denotes (item :: items) (c :: text)

theorem hexValue?_eq_some_iff {c n : Nat} : hexValue? c = some n ↔ IsHex c n := by
  unfold hexValue? IsHex
  simp only [Char.reduceToNat]
  split
  · simp only [Option.some.injEq]; omega
  · split
    · simp only [Option.some.injEq]; omega
    · split
      · simp only [Option.some.injEq]; omega
      · simp only [reduceCtorEq, false_iff]; omega

theorem isHex_iff {c : Nat} : isHex c ↔ ∃ n, IsHex c n := by
  simp only [isHex, Option.isSome_iff_exists, hexValue?_eq_some_iff]

theorem Item.isUnit_iff {item : Item} {u : Nat} :
    item.IsUnit u ↔ ∃ a b c d, item = .unit a b c d ∧
      (isHex a ∧ isHex b ∧ isHex c ∧ isHex d) ∧ unitValue a b c d = u := by
  constructor
  · rintro ⟨ha, hb, hc, hd⟩
    refine ⟨_, _, _, _, rfl, ⟨isHex_iff.mpr ⟨_, ha⟩, isHex_iff.mpr ⟨_, hb⟩,
      isHex_iff.mpr ⟨_, hc⟩, isHex_iff.mpr ⟨_, hd⟩⟩, ?_⟩
    simp only [unitValue, List.foldl, hexValue?_eq_some_iff.mpr ha, hexValue?_eq_some_iff.mpr hb,
      hexValue?_eq_some_iff.mpr hc, hexValue?_eq_some_iff.mpr hd, Option.getD_some]
    omega
  · rintro ⟨a, b, c, d, rfl, ⟨ha, hb, hc, hd⟩, rfl⟩
    obtain ⟨p, hp⟩ := isHex_iff.mp ha
    obtain ⟨q, hq⟩ := isHex_iff.mp hb
    obtain ⟨r, hr⟩ := isHex_iff.mp hc
    obtain ⟨s, hs⟩ := isHex_iff.mp hd
    have hvalue : unitValue a b c d = p * 0x1000 + q * 0x100 + r * 0x10 + s := by
      simp only [unitValue, List.foldl, hexValue?_eq_some_iff.mpr hp, hexValue?_eq_some_iff.mpr hq,
        hexValue?_eq_some_iff.mpr hr, hexValue?_eq_some_iff.mpr hs, Option.getD_some]
      omega
    rw [hvalue]
    exact ⟨hp, hq, hr, hs⟩

/-- Where every key is bound once, looking a key up finds what it is bound to. -/
theorem lookup_eq_some_iff_mem {α β : Type} [BEq α] [LawfulBEq α] {entries : List (α × β)}
    (h : (entries.map Prod.fst).Nodup) {key : α} {b : β} :
    entries.lookup key = some b ↔ (key, b) ∈ entries := by
  induction entries with
  | nil => simp
  | cons entry entries ih =>
    obtain ⟨first, value⟩ := entry
    obtain ⟨hfirst, hrest⟩ := List.nodup_cons.mp h
    rw [List.lookup_cons, List.mem_cons, Prod.mk.injEq]
    by_cases hkey : key = first
    · subst hkey
      have hnot : (key, b) ∉ entries := fun hmem =>
        hfirst (List.mem_map.mpr ⟨(key, b), hmem, rfl⟩)
      simp [hnot, eq_comm]
    · rw [beq_false_of_ne hkey]
      simp [hkey, ih hrest]

theorem lookup_escapes_eq_some_iff {letter c : Nat} :
    escapes.lookup letter = some c ↔ IsEscape letter c :=
  lookup_eq_some_iff_mem (by decide)

/-- What may stand in a string is what the reader takes, and it stands for what the reader says. -/
theorem Item.stands_iff {item : Item} {c : Nat} :
    item.Stands c ↔ item.value = c ∧ match item with
      | .plain c => c ≠ '"'.toNat ∧ c ≠ '\\'.toNat
      | .escape letter => (escapes.lookup letter).isSome
      | .unit a b c d => isHex a ∧ isHex b ∧ isHex c ∧ isHex d := by
  constructor
  · intro h
    cases h with
    | plain hquote hbackslash => exact ⟨rfl, hquote, hbackslash⟩
    | escape hescape =>
      have hlookup := lookup_escapes_eq_some_iff.mpr hescape
      exact ⟨by simp [Item.value, hlookup], by simp [hlookup]⟩
    | unit hunit =>
      obtain ⟨a, b, c, d, rfl, hhex, hvalue⟩ := Item.isUnit_iff.mp hunit
      exact ⟨hvalue, hhex⟩
  · rintro ⟨rfl, h⟩
    cases item with
    | plain c => exact .plain h.1 h.2
    | escape letter =>
      obtain ⟨c, hlookup⟩ := Option.isSome_iff_exists.mp h
      have hvalue : Item.value (.escape letter) = c := by simp [Item.value, hlookup]
      rw [hvalue]
      exact .escape (lookup_escapes_eq_some_iff.mp hlookup)
    | unit a b c d => exact .unit (Item.isUnit_iff.mpr ⟨a, b, c, d, rfl, h, rfl⟩)

theorem Item.Valid.stands {item : Item} (h : item.Valid) : item.Stands item.value := by
  obtain ⟨c, hc⟩ := h
  rw [(Item.stands_iff.mp hc).1]
  exact hc

theorem Item.valid_escape {letter : Nat} (h : (escapes.lookup letter).isSome) :
    (Item.escape letter).Valid := ⟨_, Item.stands_iff.mpr ⟨rfl, h⟩⟩

theorem Item.valid_unit {a b c d : Nat} (h : isHex a ∧ isHex b ∧ isHex c ∧ isHex d) :
    (Item.unit a b c d).Valid := ⟨_, Item.stands_iff.mpr ⟨rfl, h⟩⟩

/-! ### The reader -/

theorem readItems_quote (rest : Text) : readItems ('"'.toNat :: rest) = .ok ([], rest) := by
  unfold readItems
  rw [if_pos rfl]

/-- An item that may stand in a string is read as it is written. -/
theorem readItems_written {item : Item} (h : item.Valid) (rest : Text) :
    readItems (item.written ++ rest) = onto item (readItems rest) := by
  have hform := (Item.stands_iff.mp h.stands).2
  rw [readItems.eq_def]
  cases item with
  | plain c =>
    dsimp only [Item.written, List.cons_append, List.nil_append]
    rw [if_neg hform.1, if_pos hform.2]
  | escape letter =>
    dsimp only [Item.written, List.cons_append, List.nil_append]
    rw [if_neg (by decide), if_neg (by decide), if_pos hform]
  | unit a b c d =>
    dsimp only [Item.written, List.cons_append, List.nil_append]
    rw [if_neg (by decide), if_neg (by decide), if_neg (by decide), if_pos rfl,
      if_pos (by simp [hform])]

theorem readItems_flatMap_written {items : List Item} (h : ∀ item ∈ items, item.Valid)
    (rest : Text) :
    readItems (items.flatMap Item.written ++ '"'.toNat :: rest) = .ok (items, rest) := by
  induction items with
  | nil => exact readItems_quote rest
  | cons item items ih =>
    rw [List.flatMap_cons, List.append_assoc, readItems_written (h item (by simp)),
      ih fun item hitem => h item (List.mem_cons_of_mem _ hitem)]
    rfl

theorem written_of_readItems {text rest : Text} {items : List Item}
    (h : readItems text = .ok (items, rest)) :
    (∀ item ∈ items, item.Valid) ∧ text = items.flatMap Item.written ++ '"'.toNat :: rest := by
  fun_induction readItems text generalizing items with
  | case1 => cases h
  | case2 => cases h; simp
  | case3 c rest' hquote hplain ih =>
    obtain ⟨items', hread, rfl⟩ := onto_eq_ok_iff.mp h
    obtain ⟨hvalid, rfl⟩ := ih hread
    refine ⟨List.forall_mem_cons.mpr ⟨⟨c, .plain hquote hplain⟩, hvalid⟩, rfl⟩
  | case4 => cases h
  | case5 c hquote hbackslash letter rest' hletter ih =>
    obtain ⟨items', hread, rfl⟩ := onto_eq_ok_iff.mp h
    obtain ⟨hvalid, rfl⟩ := ih hread
    obtain rfl : c = '\\'.toNat := Decidable.of_not_not hbackslash
    exact ⟨List.forall_mem_cons.mpr ⟨Item.valid_escape hletter, hvalid⟩, rfl⟩
  | case6 c₀ hquote hbackslash a b c d behind hhex _ ih =>
    obtain ⟨items', hread, rfl⟩ := onto_eq_ok_iff.mp h
    obtain ⟨hvalid, rfl⟩ := ih hread
    simp only [Bool.and_eq_true, and_assoc] at hhex
    obtain rfl : c₀ = '\\'.toNat := Decidable.of_not_not hbackslash
    exact ⟨List.forall_mem_cons.mpr ⟨Item.valid_unit hhex, hvalid⟩, rfl⟩
  | case7 => cases h
  | case8 => cases h
  | case9 => cases h

theorem readItems_eq_ok_iff {text rest : Text} {items : List Item} :
    readItems text = .ok (items, rest) ↔
      (∀ item ∈ items, item.Valid) ∧ text = items.flatMap Item.written ++ '"'.toNat :: rest := by
  constructor
  · exact written_of_readItems
  · rintro ⟨hvalid, rfl⟩
    exact readItems_flatMap_written hvalid rest

/-! ### What items stand for -/

theorem Item.pair?_eq_some_iff {first second : Item} (hfirst : first.Valid)
    (hsecond : second.Valid) {c : Nat} :
    first.pair? second = some c ↔ ∃ high low, Halves first second high low ∧
      0x10000 + (high - 0xD800) * 0x400 + (low - 0xDC00) = c := by
  constructor
  · intro h
    unfold Item.pair? at h
    split at h
    · next a b c₁ d a' b' c₁' d' =>
      have hhex := (Item.stands_iff.mp hfirst.stands).2
      have hhex' := (Item.stands_iff.mp hsecond.stands).2
      dsimp only at h
      split at h
      · next hrange =>
        simp only [isHighSurrogate, isLowSurrogate, Bool.and_eq_true, decide_eq_true_eq] at hrange
        exact ⟨_, _, ⟨Item.isUnit_iff.mpr ⟨a, b, c₁, d, rfl, hhex, rfl⟩,
          Item.isUnit_iff.mpr ⟨a', b', c₁', d', rfl, hhex', rfl⟩, hrange.1, hrange.2⟩,
          Option.some.inj h⟩
      · cases h
    · cases h
  · rintro ⟨high, low, hhalves, rfl⟩
    obtain ⟨a, b, c₁, d, rfl, -, hvalue⟩ := Item.isUnit_iff.mp hhalves.first
    obtain ⟨a', b', c₁', d', rfl, -, hvalue'⟩ := Item.isUnit_iff.mp hhalves.second
    have hhigh : isHighSurrogate high := by simp [isHighSurrogate, hhalves.high]
    have hlow : isLowSurrogate low := by simp [isLowSurrogate, hhalves.low]
    unfold Item.pair?
    dsimp only
    rw [hvalue, hvalue', hhigh, hlow]
    rfl

theorem Denotes.valid_head {item : Item} {items : List Item} {text : Text}
    (h : Denotes (item :: items) text) : item.Valid := by
  cases h with
  | pair hhalves _ => exact ⟨_, .unit hhalves.first⟩
  | alone hstands _ _ => exact ⟨_, hstands⟩

theorem denotes_decode {items : List Item} (h : ∀ item ∈ items, item.Valid) :
    Denotes items (decode items) := by
  fun_induction decode items with
  | case1 => exact .nil
  | case2 item =>
    exact .alone (h item (by simp)).stands (fun _ _ _ hhead => nomatch hhead) .nil
  | case3 first second items c hpair ih =>
    obtain ⟨hfirst, hrest⟩ := List.forall_mem_cons.mp h
    obtain ⟨hsecond, hitems⟩ := List.forall_mem_cons.mp hrest
    obtain ⟨high, low, hhalves, rfl⟩ := (Item.pair?_eq_some_iff hfirst hsecond).mp hpair
    exact .pair hhalves (ih hitems)
  | case4 first second items hpair ih =>
    obtain ⟨hfirst, hrest⟩ := List.forall_mem_cons.mp h
    refine .alone hfirst.stands ?_ (ih hrest)
    rintro second' high low hhead hhalves
    obtain rfl : second = second' := Option.some.inj hhead
    have hsome := (Item.pair?_eq_some_iff hfirst (hrest second (by simp))).mpr
      ⟨high, low, hhalves, rfl⟩
    rw [hpair] at hsome
    cases hsome

theorem Denotes.eq_decode {items : List Item} {text : Text} (h : Denotes items text) :
    text = decode items := by
  induction h with
  | nil => rfl
  | @pair first second high low items text hhalves _ ih =>
    have hpair := (Item.pair?_eq_some_iff ⟨_, .unit hhalves.first⟩ ⟨_, .unit hhalves.second⟩).mpr
      ⟨high, low, hhalves, rfl⟩
    rw [decode, hpair, ih]
  | @alone item c items text hstands hnot hrest ih =>
    rw [ih, ← (Item.stands_iff.mp hstands).1]
    cases items with
    | nil => rfl
    | cons second items =>
      have hpair : item.pair? second = none := by
        rw [Option.eq_none_iff_forall_ne_some]
        intro c' hc'
        obtain ⟨high, low, hhalves, -⟩ :=
          (Item.pair?_eq_some_iff ⟨c, hstands⟩ hrest.valid_head).mp hc'
        exact hnot second high low rfl hhalves
      rw [decode, hpair]

theorem denotes_iff {items : List Item} (h : ∀ item ∈ items, item.Valid) {text : Text} :
    Denotes items text ↔ decode items = text :=
  ⟨fun ht => ht.eq_decode.symm, fun ht => ht ▸ denotes_decode h⟩

end Phrasebook.QuotedString
