import Phrasebook.Proofs.Template.Cursor

/-! The cursor answers as the parser does, with its own place as the place of a fault.  It stays in
the body, up to the end; only behind a backslash that ends the body it is moved once more. -/

namespace Phrasebook.InlinePlural

open QuotedString (Item escapes)
open Text (Reader skipSpaces lit onto)

variable {α β : Type} {body : Text} {cursor : Cursor} {c : Nat}

/-- The cursor stands in the body or at its end, and stood nowhere else. -/
structure Cursor.Within (body : Text) (cursor : Cursor) : Prop where
  place : cursor.place ≤ body.length
  passed : ∀ place ∈ cursor.passed, place ≤ body.length

/-- What a cursor comes to when a reader reads the same from a text.  Both find the same, or the
same is wrong; the text that is left lies ahead of the cursor.  Behind a backslash that ends the
body the cursor is one past the end. -/
inductive Meets (body : Text) : Except Fault (α × Text) → Except Reason α × Cursor → Prop
  | found {a : α} {cursor : Cursor} : cursor.Within body →
      Meets body (.ok (a, cursor.ahead body)) (.ok a, cursor)
  | fault {reason : Reason} {cursor : Cursor} : cursor.Within body →
      reason ≠ .string (.invalidEscape none) →
      Meets body (.error (reason, cursor.ahead body)) (.error reason, cursor)
  | cutOff {cursor : Cursor} : cursor.Within body → cursor.place = body.length →
      body.getLast? = some '\\'.toNat →
      Meets body (.error (.string (.invalidEscape none), []))
        (.error (.string (.invalidEscape none)), cursor.advance 1)

/-- From every place in the body the walk comes to what the reader finds there. -/
def Follows (body : Text) (walk : Walk α) (read : Reader Reason α) : Prop :=
  ∀ cursor, cursor.Within body → Meets body (read (cursor.ahead body)) (walk cursor)

theorem ahead_of_peek (h : cursor.peek body = some c) :
    cursor.ahead body = c :: (cursor.advance 1).ahead body := by
  obtain ⟨hlt, hc⟩ := List.getElem?_eq_some_iff.mp h
  rw [← hc]
  exact List.drop_eq_getElem_cons hlt

theorem ahead_of_peek_none (h : cursor.peek body = none) : cursor.ahead body = [] :=
  List.drop_eq_nil_of_le (List.getElem?_eq_none_iff.mp h)

theorem peek_eq_head? (body : Text) (cursor : Cursor) :
    cursor.peek body = (cursor.ahead body).head? := List.head?_drop.symm

theorem Cursor.Within.advance {n : Nat} (h : cursor.Within body)
    (hn : n ≤ (cursor.ahead body).length) : (cursor.advance n).Within body := by
  have hle := h.place
  rw [Cursor.ahead, List.length_drop] at hn
  exact ⟨by rw [Cursor.place_advance]; omega, List.forall_mem_cons.mpr ⟨hle, h.passed⟩⟩

theorem ahead_advance (n : Nat) (body : Text) (cursor : Cursor) :
    (cursor.advance n).ahead body = (cursor.ahead body).drop n := by
  rw [Cursor.ahead, Cursor.ahead, List.drop_drop, Cursor.place_advance]

theorem Cursor.Within.advance_one (h : cursor.Within body) (hc : cursor.peek body = some c) :
    (cursor.advance 1).Within body :=
  h.advance (by rw [ahead_of_peek hc]; simp)

theorem Meets.map {f : α → β} {read : Except Fault (α × Text)}
    {outcome : Except Reason α × Cursor} (h : Meets body read outcome) :
    Meets body (read.map (Prod.map f id)) (outcome.map (Except.map f) id) := by
  cases h with
  | found hwithin => exact .found hwithin
  | fault hwithin hother => exact .fault hwithin hother
  | cutOff hwithin hend hlast => exact .cutOff hwithin hend hlast

theorem Meets.of_ok {found : Except Fault (α × Text)} {a : α}
    (h : Meets body found (.ok a, cursor)) :
    cursor.Within body ∧ found = .ok (a, cursor.ahead body) := by
  cases h with
  | found hwithin => exact ⟨hwithin, rfl⟩

theorem Meets.andThen_of_error {read : Reader Reason α} {next : α → Reader Reason β} {text : Text}
    {reason : Reason} (h : Meets body (read text) (.error reason, cursor)) :
    Meets body (read.andThen next text) (.error reason, cursor) := by
  generalize hread : read text = found at h
  cases h with
  | fault hwithin hother =>
    rw [Reader.andThen_of_error hread]
    exact .fault hwithin hother
  | cutOff hwithin hend hlast =>
    rw [Reader.andThen_of_error hread]
    exact .cutOff hwithin hend hlast

namespace Follows

variable {walk : Walk α} {next : α → Walk β} {read : Reader Reason α}
  {readNext : α → Reader Reason β}

theorem pure (a : α) : Follows body (Pure.pure a) fun rest => .ok (a, rest) :=
  fun _ h => .found h

theorem bind (h : Follows body walk read) (hnext : ∀ a, Follows body (next a) (readNext a)) :
    Follows body (walk >>= next) (read.andThen readNext) := by
  intro cursor hwithin
  have hmeets := h cursor hwithin
  rcases hwalk : walk cursor with ⟨_ | a, after⟩
  · rw [hwalk] at hmeets
    rw [Walk.bind_of_error hwalk]
    exact hmeets.andThen_of_error
  · rw [hwalk] at hmeets
    obtain ⟨hafter, hread⟩ := hmeets.of_ok
    rw [Reader.andThen_of_ok hread, Walk.bind_of_ok hwalk]
    exact hnext a after hafter

end Follows

theorem within_skip (h : cursor.Within body) : (skip body cursor).Within body := by
  fun_induction skip body cursor with
  | case1 => exact h
  | case2 cursor c hc _ ih => exact ih (h.advance_one hc)
  | case3 => exact h

theorem ahead_skip (body : Text) (cursor : Cursor) :
    (skip body cursor).ahead body = skipSpaces (cursor.ahead body) := by
  fun_induction skip body cursor with
  | case1 cursor hc =>
    rw [ahead_of_peek_none hc]
    rfl
  | case2 cursor c hc hspace ih =>
    rw [ih, ahead_of_peek hc, skipSpaces, skipSpaces, List.dropWhile_cons, if_pos hspace]
  | case3 cursor c hc hspace =>
    rw [ahead_of_peek hc, skipSpaces, List.dropWhile_cons, if_neg hspace]

/-- Spaces may be skipped before a reader that skips them itself. -/
theorem Follows.skipped {walk : Walk α} {read : Reader Reason α} (h : Follows body walk read)
    (hskip : ∀ text, read (skipSpaces text) = read text) :
    Follows body (do modify (skip body); walk) read := by
  intro cursor hwithin
  rw [← hskip, ← ahead_skip]
  exact h _ (within_skip hwithin)

/-- Where the next mark decides between two walks. -/
theorem Follows.atMark {yes no : Walk α} {read : Reader Reason α}
    (hyes : ∀ text cursor, cursor.Within body → cursor.peek body = some c →
      skipSpaces text = cursor.ahead body → Meets body (read text) (yes cursor))
    (hno : ∀ text cursor, cursor.Within body → (skipSpaces text).head? ≠ some c →
      skipSpaces text = cursor.ahead body → Meets body (read text) (no cursor)) :
    Follows body (do modify (skip body); if (← get).peek body = some c then yes else no) read := by
  intro cursor hwithin
  have hskip := ahead_skip body cursor
  change Meets body _
    ((if (skip body cursor).peek body = some c then yes else no) (skip body cursor))
  split
  · next hpeek => exact hyes _ _ (within_skip hwithin) hpeek hskip.symm
  · next hpeek =>
    refine hno _ _ (within_skip hwithin) ?_ hskip.symm
    rwa [← hskip, ← peek_eq_head?]

theorem mark_skipSpaces (c : Nat) (text : Text) : mark c (skipSpaces text) = mark c text := by
  rw [mark, mark, expect, expect, skipSpaces_skipSpaces]

theorem follows_walkMark (c : Nat) : Follows body (walkMark body c) (mark c) := by
  refine .atMark (fun text cursor hwithin hpeek hskip => ?_)
    fun text cursor hwithin hhead hskip => ?_
  · have hmark : mark c text = .ok ((), (cursor.advance 1).ahead body) := by
      rw [mark, expect, hskip, ahead_of_peek hpeek]
      dsimp only
      rw [if_pos rfl]
      rfl
    rw [hmark]
    exact .found (hwithin.advance_one hpeek)
  · rw [mark_eq_error_iff.mpr ⟨hhead, rfl, rfl⟩, hskip]
    exact .fault hwithin (by simp)

theorem follows_walkUnit : Follows body (walkUnit body) readUnit := by
  intro cursor hwithin
  rw [walkUnit, Walk.get_bind, readUnit]
  cases hhigh : unit? (cursor.ahead body) with
  | none => exact .fault hwithin (by simp)
  | some high =>
    obtain ⟨_, _, _, _, _, hahead, -⟩ := unit?_eq_some_iff.mp hhigh
    have hwithin₄ : (cursor.advance 4).Within body := hwithin.advance (by rw [hahead]; simp)
    dsimp only
    rw [← ahead_advance, Walk.modify_bind, Walk.get_bind]
    cases hlow : low? high ((cursor.advance 4).ahead body) with
    | none => exact .found hwithin₄
    | some low =>
      obtain ⟨-, -, _, _, _, _, _, hahead₄, -⟩ := low?_eq_some_iff.mp hlow
      dsimp only
      rw [← ahead_advance]
      exact .found (hwithin₄.advance (by rw [hahead₄]; simp [Item.written]))

theorem end_of_peek (h : cursor.peek body = some c) (hend : (cursor.advance 1).peek body = none) :
    (cursor.advance 1).place = body.length ∧ body.getLast? = some c := by
  have hlt := Cursor.lt_of_peek h
  have hle : body.length ≤ cursor.place + 1 := List.getElem?_eq_none_iff.mp hend
  refine ⟨by rw [Cursor.place_advance]; omega, ?_⟩
  rw [List.getLast?_eq_getElem?, ← h, Cursor.peek, show body.length - 1 = cursor.place by omega]

/-- Behind a backslash. -/
theorem meets_walkEscape (hwithin : cursor.Within body)
    (hlast : cursor.peek body = none → cursor.place = body.length ∧
      body.getLast? = some '\\'.toNat) :
    Meets body (readEscape (cursor.ahead body)) (walkEscape body cursor) := by
  rw [walkEscape, Walk.get_bind, Walk.modify_bind]
  cases hpeek : cursor.peek body with
  | none =>
    rw [ahead_of_peek_none hpeek]
    exact .cutOff hwithin (hlast hpeek).1 (hlast hpeek).2
  | some letter =>
    have hwithin₁ := hwithin.advance_one hpeek
    rw [ahead_of_peek hpeek, readEscape, Option.bind_some]
    cases escapes.lookup letter with
    | some c => exact .found hwithin₁
    | none =>
      dsimp only
      by_cases hunit : letter = 'u'.toNat
      · rw [if_pos hunit, if_pos (congrArg some hunit)]
        exact follows_walkUnit _ hwithin₁
      · rw [if_neg hunit, if_neg fun h => hunit (Option.some.inj h)]
        exact .fault hwithin₁ (by simp)

theorem follows_walkChars : Follows body (walkChars body) inString := by
  intro cursor hwithin
  fun_induction walkChars body cursor with
  | case1 cursor hpeek =>
    have hend : inString (cursor.ahead body) =
        .error (.string .unterminated, cursor.ahead body) := by
      rw [ahead_of_peek_none hpeek]
      rfl
    rw [hend]
    exact .fault hwithin (by simp)
  | case2 cursor hpeek =>
    rw [ahead_of_peek hpeek, inString_quote]
    exact .found (hwithin.advance_one hpeek)
  | case3 cursor c hpeek hquote hplain ih =>
    rw [ahead_of_peek hpeek, inString_plain hquote hplain]
    exact (ih (hwithin.advance_one hpeek)).map
  | case4 cursor c hpeek hquote hbackslash reason after hescape =>
    obtain rfl : c = '\\'.toNat := Decidable.of_not_not hbackslash
    have hmeets := meets_walkEscape (hwithin.advance_one hpeek) (end_of_peek hpeek)
    rw [hescape] at hmeets
    rw [ahead_of_peek hpeek, inString_backslash]
    exact hmeets.andThen_of_error
  | case5 cursor c hpeek hquote hbackslash c' after hescape ih =>
    obtain rfl : c = '\\'.toNat := Decidable.of_not_not hbackslash
    have hmeets := meets_walkEscape (hwithin.advance_one hpeek) (end_of_peek hpeek)
    rw [hescape] at hmeets
    obtain ⟨hafter, hread⟩ := hmeets.of_ok
    rw [ahead_of_peek hpeek, inString_backslash, Reader.andThen_of_ok hread]
    exact (ih hafter).map

theorem follows_walkString : Follows body (walkString body) readString := by
  refine .atMark (fun text cursor hwithin hpeek hskip => ?_)
    fun text cursor hwithin hhead hskip => ?_
  · have hread : readString text = inString ((cursor.advance 1).ahead body) := by
      rw [readString, hskip, ahead_of_peek hpeek]
      rfl
    rw [hread]
    exact follows_walkChars _ (hwithin.advance_one hpeek)
  · rw [readString_of_head? hhead, hskip]
    exact .fault hwithin (by simp)

theorem follows_walkTemplate (tag : Text) :
    Follows body (walkTemplate body tag) (readTemplate tag) := by
  refine .atMark (fun text cursor hwithin hpeek hskip => ?_)
    fun text cursor hwithin hhead hskip => ?_
  · rw [readTemplate, if_pos (by rw [hskip, ahead_of_peek hpeek, List.head?_cons])]
    have hread : readString text = readString (cursor.ahead body) := by
      rw [← readString_skipSpaces, hskip]
    unfold Reader.andThen
    rw [hread]
    exact (follows_walkString.bind fun template => .pure (tag, template)) cursor hwithin
  · rw [readTemplate, if_neg hhead, hskip]
    exact .fault hwithin (by simp)

theorem follows_walkMember : Follows body (walkMember body) readMember := by
  refine .skipped ?_ readMember_skipSpaces
  rw [readMember_eq]
  exact follows_walkString.bind fun tag => (follows_walkMark _).bind fun _ =>
    follows_walkTemplate tag

theorem readTail_of_comma (m : Text × Text) {text rest : Text}
    (h : skipSpaces text = ','.toNat :: rest) : readTail m text = onto m (readMembers rest) := by
  rw [readTail, h]
  rfl

/-- Where no comma stands behind a member, only the closing brace may. -/
theorem readTail_of_head? (m : Text × Text) {text : Text}
    (h : (skipSpaces text).head? ≠ some ','.toNat) :
    readTail m text = (mark '}'.toNat text).map (Prod.map (fun _ => [m]) id) := by
  rw [readTail, mark, expect]
  cases hskip : skipSpaces text with
  | nil => rfl
  | cons c rest =>
    rw [hskip] at h
    dsimp only
    rw [if_neg fun hc => h (congrArg some hc)]
    split <;> rfl

theorem follows_walkMembers : Follows body (walkMembers body) readMembers := by
  intro cursor hwithin
  have hmeets := follows_walkMember cursor hwithin
  rw [readMembers_eq]
  fun_induction walkMembers body cursor with
  | case1 cursor reason after hmember =>
    rw [hmember] at hmeets
    exact hmeets.andThen_of_error
  | case2 cursor member after hmember hcomma ih =>
    rw [hmember] at hmeets
    obtain ⟨hafter, hread⟩ := hmeets.of_ok
    have hnext := (within_skip hafter).advance_one hcomma
    have hskip := ahead_skip body after
    rw [ahead_of_peek hcomma] at hskip
    rw [Reader.andThen_of_ok hread, readTail_of_comma member hskip.symm, readMembers_eq]
    exact (ih hnext (follows_walkMember _ hnext)).map
  | case3 cursor member after hmember hcomma =>
    rw [hmember] at hmeets
    obtain ⟨hafter, hread⟩ := hmeets.of_ok
    rw [peek_eq_head?, ahead_skip] at hcomma
    rw [Reader.andThen_of_ok hread, readTail_of_head? member hcomma, ← mark_skipSpaces,
      ← ahead_skip]
    exact (follows_walkMark _ _ (within_skip hafter)).map

theorem follows_walkInner : Follows body (walkInner body) readInner := by
  refine .atMark (fun text cursor hwithin hpeek hskip => ?_)
    fun text cursor hwithin hhead hskip => ?_
  · have hread : readInner text = .ok ([], (cursor.advance 1).ahead body) := by
      rw [readInner, hskip, ahead_of_peek hpeek]
      rfl
    rw [hread]
    exact .found (hwithin.advance_one hpeek)
  · rw [readInner_of_head? hhead, ← readMembers_skipSpaces, hskip]
    exact follows_walkMembers cursor hwithin

theorem follows_walkCategories : Follows body (walkCategories body) readCategories := by
  rw [readCategories_eq]
  exact (follows_walkMark _).bind fun _ => follows_walkInner

theorem follows_walkClosing : Follows body (walkClosing body) readClosing := by
  refine .atMark (fun text cursor hwithin hpeek hskip => ?_)
    fun text cursor hwithin hhead hskip => ?_
  · rw [readClosing, if_pos (by rw [hskip, ahead_of_peek hpeek, List.head?_cons]), hskip]
    exact .fault hwithin (by simp)
  · rw [readClosing, if_neg hhead, ← mark_skipSpaces, hskip]
    exact follows_walkMark _ cursor hwithin

theorem follows_walkPlural : Follows body (walkPlural body) readPlural :=
  follows_walkString.bind fun _ => (follows_walkMark _).bind fun _ =>
    follows_walkCategories.bind fun _ => follows_walkClosing.bind fun _ => .pure _

theorem readPlural_skipSpaces (text : Text) : readPlural (skipSpaces text) = readPlural text := by
  unfold readPlural Reader.andThen
  rw [readString_skipSpaces]

theorem follows_walkRoot : Follows body (walkRoot body) readRoot := by
  rw [readRoot_eq]
  refine (follows_walkMark _).bind fun _ => .atMark (fun text cursor hwithin hpeek hskip => ?_)
    fun text cursor hwithin hhead hskip => ?_
  · rw [if_pos (by rw [hskip, ahead_of_peek hpeek, List.head?_cons]), hskip]
    exact .fault hwithin (by simp)
  · rw [if_neg hhead, ← readPlural_skipSpaces, hskip]
    exact follows_walkPlural cursor hwithin

/-- Nothing but spaces behind an inline plural. -/
def readSpaces (plural : InlinePlural) : Reader Reason InlinePlural := fun text =>
  match skipSpaces text with
  | [] => .ok (plural, [])
  | c :: rest => .error (.trailingContent, c :: rest)

theorem follows_walkEnd (plural : InlinePlural) :
    Follows body (walkEnd body plural) (readSpaces plural) := by
  intro cursor hwithin
  have hwithin' := within_skip hwithin
  have hle := hwithin'.place
  rw [walkEnd, Walk.modify_bind, Walk.get_bind, readSpaces, ← ahead_skip]
  by_cases hend : (skip body cursor).place = body.length
  · have hahead : (skip body cursor).ahead body = [] := List.drop_eq_nil_of_le (by omega)
    have hfound := Meets.found (a := plural) hwithin'
    rw [hahead] at hfound
    rw [if_pos hend, hahead]
    exact hfound
  · have hne : (skip body cursor).ahead body ≠ [] := fun hnil =>
      absurd (List.drop_eq_nil_iff.mp hnil) (by omega)
    obtain ⟨c, rest, hahead⟩ := List.exists_cons_of_ne_nil hne
    have hfault : Meets (α := InlinePlural) body
        (.error (.trailingContent, (skip body cursor).ahead body))
        (.error .trailingContent, skip body cursor) := .fault hwithin' (by simp)
    rw [hahead] at hfault
    rw [if_neg hend, hahead]
    exact hfault

/-- An inline plural and the spaces behind it. -/
def readBody : Reader Reason InlinePlural := Reader.andThen readRoot readSpaces

theorem readWhole_eq (body : Text) : readWhole body = (readBody body).map Prod.fst := by
  unfold readWhole readBody Reader.andThen readSpaces
  cases readRoot body with
  | error fault => rfl
  | ok found =>
    obtain ⟨plural, rest⟩ := found
    dsimp only [bind, Except.bind]
    cases skipSpaces rest <;> rfl

theorem eq_nil_of_readBody {text rest : Text} {plural : InlinePlural}
    (h : readBody text = .ok (plural, rest)) : rest = [] := by
  unfold readBody Reader.andThen readSpaces at h
  cases hroot : readRoot text with
  | error fault =>
    rw [hroot] at h
    cases h
  | ok found =>
    rw [hroot] at h
    dsimp only [bind, Except.bind] at h
    split at h
    · cases h
      rfl
    · cases h

theorem readBody_skipSpaces (text : Text) : readBody (skipSpaces text) = readBody text := by
  rw [readBody, readRoot_eq]
  unfold Reader.andThen
  rw [mark_skipSpaces]

theorem meets_walk (body : Text) : Meets body (readBody body) (walk body) := by
  have hstart : Cursor.Within body .start :=
    ⟨Nat.zero_le _, fun _ h => absurd h List.not_mem_nil⟩
  exact (follows_walkRoot.bind follows_walkEnd).skipped readBody_skipSpaces _ hstart

theorem offset_eq_place {reason : Reason} (h : cursor.Within body)
    (hother : reason ≠ .string (.invalidEscape none)) :
    offset body (reason, cursor.ahead body) = cursor.place := by
  have hle := h.place
  rw [offset_of_ne hother, Cursor.ahead, List.length_drop]
  omega

/-- The cursor answers as the parser does, and faults a body where it stands.  It goes by steps from
the start and stays in the body, up to its end, which it reaches in every body that is accepted;
only an escape that the end of the body cuts off leads it one place further. -/
theorem parse_cursor_within (body : Text) :
    parse body = (walk body).1.mapError (fun reason => ⟨body, (walk body).2.place, reason⟩) ∧
      Cursor.Leads .start (walk body).2 ∧
      (∀ place ∈ (walk body).2.passed, place ≤ body.length) ∧
      (∀ plural, (walk body).1 = .ok plural → (walk body).2.place = body.length) ∧
      ((walk body).1 ≠ .error (.string (.invalidEscape none)) →
        (walk body).2.place ≤ body.length) ∧
      ((walk body).1 = .error (.string (.invalidEscape none)) →
        body.getLast? = some '\\'.toNat ∧ (walk body).2.place = body.length + 1) := by
  have hmeets := meets_walk body
  have hleads := leads_walk body
  rw [parse, readWhole_eq]
  generalize hread : readBody body = found at hmeets
  generalize walk body = outcome at hmeets hleads
  cases hmeets with
  | found hwithin =>
    have hend := List.drop_eq_nil_iff.mp (eq_nil_of_readBody hread)
    have hle := hwithin.place
    exact ⟨rfl, hleads, hwithin.passed, fun _ _ => by dsimp only; omega, fun _ => hle,
      fun h => nomatch h⟩
  | @fault reason cursor hwithin hother =>
    have hoffset := offset_eq_place hwithin hother
    refine ⟨?_, hleads, hwithin.passed, fun _ h => (nomatch h), fun _ => hwithin.place, ?_⟩
    · exact congrArg (fun place => Except.error (Malformed.mk body place reason)) hoffset
    · exact fun h => absurd (Except.error.inj h) hother
  | cutOff hwithin hend hlast =>
    refine ⟨?_, hleads, ?_, fun _ h => (nomatch h), fun h => absurd rfl h, fun _ => ⟨hlast, ?_⟩⟩
    · exact congrArg (fun place => Except.error (Malformed.mk body (place + 1) _)) hend.symm
    · exact List.forall_mem_cons.mpr ⟨hwithin.place, hwithin.passed⟩
    · rw [Cursor.place_advance, hend]

/-- A string that a backslash ends is faulted behind the end of its body. -/
theorem parse_backslash_at_end : (lit "\x7b\"\\").length = 3 ∧
    parse (lit "\x7b\"\\") =
      .error ⟨lit "\x7b\"\\", 4, .string (.invalidEscape none)⟩ := by
  constructor
  · decide
  · cbv

end Phrasebook.InlinePlural
