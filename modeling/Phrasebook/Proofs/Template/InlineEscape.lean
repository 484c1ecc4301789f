import Phrasebook.Proofs.Template.InlineReader

/-! Strings of inline plurals read one character after the other: a backslash and what it escapes
are one character, and so are two escaped units that are halves of a pair. -/

namespace Phrasebook.InlinePlural

open QuotedString (Item escapes isHex unitValue isHighSurrogate isLowSurrogate pairValue decode
  readItems)
open Text (Reader onto)

/-- The number that four hexadecimal digits write at the start of a text. -/
def unit? : Text → Option Nat
  | a :: b :: c :: d :: _ =>
    if isHex a && isHex b && isHex c && isHex d then some (unitValue a b c d) else none
  | _ => none

/-- The low surrogate that is escaped at the start of a text, if `high` is a high one. -/
def low? (high : Nat) (text : Text) : Option Nat :=
  if isHighSurrogate high && text.take 2 == ['\\'.toNat, 'u'.toNat] then
    (unit? (text.drop 2)).filter isLowSurrogate
  else none

/-- The character of a unit behind its letter, or of two units that are halves of it. -/
def readUnit : Reader Reason Nat := fun text =>
  match unit? text with
  | none => .error (.string .invalidUnit, text)
  | some high =>
    match low? high (text.drop 4) with
    | none => .ok (high, text.drop 4)
    | some low => .ok (pairValue high low, (text.drop 4).drop 6)

/-- The character that is escaped behind a backslash. -/
def readEscape : Reader Reason Nat
  | [] => .error (.string (.invalidEscape none), [])
  | letter :: rest =>
    match escapes.lookup letter with
    | some c => .ok (c, rest)
    | none =>
      if letter = 'u'.toNat then readUnit rest
      else .error (.string (.invalidEscape (some letter)), rest)

theorem unit?_eq_some_iff {text : Text} {u : Nat} : unit? text = some u ↔ ∃ a b c d behind,
    text = a :: b :: c :: d :: behind ∧ (isHex a ∧ isHex b ∧ isHex c ∧ isHex d) ∧
      unitValue a b c d = u := by
  constructor
  · intro h
    unfold unit? at h
    split at h
    · next a b c d behind =>
      split at h
      · next hhex =>
        simp only [Bool.and_eq_true, and_assoc] at hhex
        exact ⟨a, b, c, d, behind, rfl, hhex, Option.some.inj h⟩
      · cases h
    · cases h
  · rintro ⟨a, b, c, d, behind, rfl, hhex, rfl⟩
    exact if_pos (by simp [hhex])

theorem low?_eq_some_iff {high low : Nat} {text : Text} : low? high text = some low ↔
    isHighSurrogate high ∧ isLowSurrogate low ∧ ∃ a b c d behind,
      text = (Item.unit a b c d).written ++ behind ∧
        (isHex a ∧ isHex b ∧ isHex c ∧ isHex d) ∧ unitValue a b c d = low := by
  unfold low?
  split
  · next hhigh =>
    simp only [Bool.and_eq_true, beq_iff_eq] at hhigh
    rw [Option.filter_eq_some_iff, unit?_eq_some_iff]
    constructor
    · rintro ⟨⟨a, b, c, d, behind, hdrop, hunit⟩, hlow⟩
      refine ⟨hhigh.1, hlow, a, b, c, d, behind, ?_, hunit⟩
      rw [← List.take_append_drop 2 text, hhigh.2, hdrop]
      rfl
    · rintro ⟨-, hlow, a, b, c, d, behind, rfl, hunit⟩
      exact ⟨⟨a, b, c, d, behind, rfl, hunit⟩, hlow⟩
  · next hhigh =>
    simp only [reduceCtorEq, false_iff]
    rintro ⟨hsurrogate, -, a, b, c, d, behind, rfl, -⟩
    exact hhigh (by simp [hsurrogate, Item.written])

theorem inString_eq (text : Text) : inString text =
    ((readItems text).map fun found => (decode found.1, found.2)).mapError
      fun fault => (.string fault.1, fault.2) := rfl

/-- An item that is no half of a pair with the next one is one character. -/
theorem inString_written {item : Item} (h : item.Valid) {rest : Text}
    (halone : ∀ second items rest', readItems rest = .ok (second :: items, rest') →
      item.pair? second = none) :
    inString (item.written ++ rest) = onto item.value (inString rest) := by
  rw [inString_eq, inString_eq, QuotedString.readItems_written h]
  cases hread : readItems rest with
  | error fault => rfl
  | ok found =>
    obtain ⟨_ | ⟨second, items⟩, rest'⟩ := found
    · rfl
    · have hdecode : decode (item :: second :: items) = item.value :: decode (second :: items) := by
        rw [decode, halone second items rest' hread]
      exact congrArg (fun s => Except.ok (s, rest')) hdecode

theorem inString_pair {first second : Item} (hfirst : first.Valid) (hsecond : second.Valid)
    {c : Nat} (hpair : first.pair? second = some c) (rest : Text) :
    inString (first.written ++ (second.written ++ rest)) = onto c (inString rest) := by
  rw [inString_eq, inString_eq, QuotedString.readItems_written hfirst,
    QuotedString.readItems_written hsecond]
  cases readItems rest with
  | error fault => rfl
  | ok found =>
    have hdecode : decode (first :: second :: found.1) = c :: decode found.1 := by
      rw [decode, hpair]
    exact congrArg (fun s => Except.ok (s, found.2)) hdecode

theorem inString_quote (rest : Text) : inString ('"'.toNat :: rest) = .ok ([], rest) := by
  rw [inString_eq, QuotedString.readItems_quote]
  rfl

theorem inString_plain {c : Nat} (hquote : c ≠ '"'.toNat) (hbackslash : c ≠ '\\'.toNat)
    (rest : Text) : inString (c :: rest) = onto c (inString rest) :=
  inString_written ⟨c, .plain hquote hbackslash⟩ fun _ _ _ _ => rfl

theorem pair?_unit_eq_some_iff {a b c d u : Nat} {second : Item} :
    (Item.unit a b c d).pair? second = some u ↔ isHighSurrogate (unitValue a b c d) ∧
      ∃ a' b' c' d', second = .unit a' b' c' d' ∧ isLowSurrogate (unitValue a' b' c' d') ∧
        pairValue (unitValue a b c d) (unitValue a' b' c' d') = u := by
  constructor
  · intro h
    cases second with
    | unit a' b' c' d' =>
      unfold Item.pair? at h
      dsimp only at h
      split at h
      · next hsurrogates =>
        rw [Bool.and_eq_true] at hsurrogates
        exact ⟨hsurrogates.1, a', b', c', d', rfl, hsurrogates.2, Option.some.inj h⟩
      · cases h
    | plain => cases h
    | escape => cases h
  · rintro ⟨hhigh, a', b', c', d', rfl, hlow, rfl⟩
    exact if_pos (by simp [hhigh, hlow])

theorem inString_unit (rest : Text) : inString ('\\'.toNat :: 'u'.toNat :: rest) =
    readUnit.andThen (fun c rest => onto c (inString rest)) rest := by
  cases hhigh : unit? rest with
  | none =>
    have hread : readItems ('\\'.toNat :: 'u'.toNat :: rest) = .error (.invalidUnit, rest) := by
      refine QuotedString.readItems_of_not_hasUnit fun hunit => ?_
      obtain ⟨a, b, c, d, behind, rfl, -⟩ := id hunit
      rw [unit?, if_pos (QuotedString.hasUnit_iff.mp hunit)] at hhigh
      cases hhigh
    have hunit : readUnit rest = .error (.string .invalidUnit, rest) := by
      unfold readUnit
      rw [hhigh]
    rw [inString_eq, hread, Reader.andThen_of_error hunit]
    rfl
  | some high =>
    obtain ⟨a, b, c, d, behind, rfl, hhex, rfl⟩ := unit?_eq_some_iff.mp hhigh
    have hdrop : (a :: b :: c :: d :: behind).drop 4 = behind := rfl
    cases hlow : low? (unitValue a b c d) behind with
    | none =>
      have hunit : readUnit (a :: b :: c :: d :: behind) = .ok (unitValue a b c d, behind) := by
        unfold readUnit
        rw [hhigh]
        dsimp only
        rw [hdrop, hlow]
      rw [Reader.andThen_of_ok hunit]
      refine inString_written (Item.valid_unit hhex) fun second items rest' hread => ?_
      rw [Option.eq_none_iff_forall_ne_some]
      intro u hu
      obtain ⟨hfirst, a', b', c', d', rfl, hsecond, -⟩ := pair?_unit_eq_some_iff.mp hu
      obtain ⟨hvalid, rfl⟩ := QuotedString.readItems_eq_ok_iff.mp hread
      have hhex' := (QuotedString.Item.stands_iff.mp (hvalid _ List.mem_cons_self).stands).2
      rw [List.flatMap_cons, List.append_assoc] at hlow
      rw [low?_eq_some_iff.mpr
        ⟨hfirst, hsecond, a', b', c', d', _, rfl, hhex', rfl⟩] at hlow
      cases hlow
    | some low =>
      have hunit : readUnit (a :: b :: c :: d :: behind) =
          .ok (pairValue (unitValue a b c d) low, behind.drop 6) := by
        unfold readUnit
        rw [hhigh]
        dsimp only
        rw [hdrop, hlow]
      rw [Reader.andThen_of_ok hunit]
      obtain ⟨hfirst, hsecond, a', b', c', d', behind', rfl, hhex', rfl⟩ :=
        low?_eq_some_iff.mp hlow
      exact inString_pair (Item.valid_unit hhex) (Item.valid_unit hhex')
        (pair?_unit_eq_some_iff.mpr ⟨hfirst, a', b', c', d', rfl, hsecond, rfl⟩) behind'

theorem inString_backslash (rest : Text) : inString ('\\'.toNat :: rest) =
    readEscape.andThen (fun c rest => onto c (inString rest)) rest := by
  cases rest with
  | nil => rfl
  | cons letter rest =>
    cases hletter : escapes.lookup letter with
    | some c =>
      have hescape : readEscape (letter :: rest) = .ok (c, rest) := by
        rw [readEscape, hletter]
      have hitem : (Item.escape letter).Stands c :=
        .escape (QuotedString.lookup_escapes_eq_some_iff.mp hletter)
      have hvalue : (Item.escape letter).value = c := (QuotedString.Item.stands_iff.mp hitem).1
      rw [Reader.andThen_of_ok hescape, ← hvalue]
      exact inString_written ⟨c, hitem⟩ fun _ _ _ _ => rfl
    | none =>
      by_cases hunit : letter = 'u'.toNat
      · subst hunit
        have hescape : readEscape ('u'.toNat :: rest) = readUnit rest := by
          rw [readEscape, hletter]
          exact if_pos rfl
        rw [inString_unit]
        unfold Reader.andThen
        rw [hescape]
      · have hread := QuotedString.readItems_of_not_escape (by simp [hletter]) hunit rest
        have hescape : readEscape (letter :: rest) =
            .error (.string (.invalidEscape (some letter)), rest) := by
          rw [readEscape, hletter]
          exact if_neg hunit
        rw [inString_eq, hread, Reader.andThen_of_error hescape]
        rfl

end Phrasebook.InlinePlural
