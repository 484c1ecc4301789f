import Phrasebook.Proofs.Template.InlinePlural
import Phrasebook.Proofs.Text.Forward

/-! The readers of inline plurals go forward.  A fault is told by the first character that is left,
bad digits of a unit by four; only a letter that no escape has is passed before it is faulted. -/

namespace Phrasebook

open Text (Reader Forward Prompt skipSpaces isSpace onto_eq_error_iff)

namespace QuotedString

/-- The text begins with the four digits of a unit. -/
def HasUnit (text : Text) : Prop :=
  ∃ a b c d behind, text = a :: b :: c :: d :: behind ∧
    ∀ digit ∈ [a, b, c, d], ∃ n, IsHex digit n

/-- The fault is told by the first `n` characters of what is left. -/
inductive Fault.Told : Fault → Nat → Text → Prop
  | unterminated {left : Text} : Told .unterminated 1 left
  | cutOff {left : Text} : Told (.invalidEscape none) 1 left
  | letter {letter : Nat} {left : Text} : Told (.invalidEscape (some letter)) 0 left
  | unit {left : Text} : ¬HasUnit left → Told .invalidUnit 4 left

theorem hasUnit_iff {a b c d : Nat} {behind : Text} :
    HasUnit (a :: b :: c :: d :: behind) ↔ (isHex a && isHex b && isHex c && isHex d) = true := by
  simp only [HasUnit, Bool.and_eq_true, isHex_iff, List.forall_mem_cons, List.not_mem_nil,
    false_implies, implies_true, and_true, List.cons.injEq, and_assoc]
  constructor
  · rintro ⟨_, _, _, _, _, rfl, rfl, rfl, rfl, rfl, h⟩
    exact h
  · intro h
    exact ⟨_, _, _, _, _, rfl, rfl, rfl, rfl, rfl, h⟩

theorem valid_n : Item.Valid (.escape 'n'.toNat) := Item.valid_escape (by decide)

theorem valid_zero : Item.Valid (.unit '0'.toNat '0'.toNat '0'.toNat '0'.toNat) :=
  Item.valid_unit (by decide)

theorem readItems_single {item : Item} (h : item.Valid) (rest : Text) :
    readItems (item.written ++ '"'.toNat :: rest) = .ok ([item], rest) := by
  rw [readItems_written h, readItems_quote]
  rfl

/-- A fault behind an item. -/
theorem prompt_written {item : Item} {seen left : Text} {fault : Fault} {n : Nat}
    (hitem : item.Valid) (h : Prompt Fault.Told readItems seen fault n left) :
    Prompt Fault.Told readItems (item.written ++ seen) fault n left :=
  h.behind (f := (item :: ·)) (readItems_written hitem)

/-- A letter that no escape has. -/
theorem readItems_of_not_escape {letter : Nat} (hletter : ¬(escapes.lookup letter).isSome)
    (hunit : letter ≠ 'u'.toNat) (rest : Text) :
    readItems ('\\'.toNat :: letter :: rest) = .error (.invalidEscape (some letter), rest) := by
  rw [readItems.eq_def]
  dsimp only
  rw [if_neg (by decide), if_neg (by decide), if_neg hletter, if_neg hunit]

/-- Digits that are no unit. -/
theorem readItems_of_not_hasUnit {rest : Text} (h : ¬HasUnit rest) :
    readItems ('\\'.toNat :: 'u'.toNat :: rest) = .error (.invalidUnit, rest) := by
  rw [readItems.eq_def]
  dsimp only
  rw [if_neg (by decide), if_neg (by decide), if_neg (by decide), if_pos rfl]
  split
  · exact if_neg (mt hasUnit_iff.mpr h)
  · rfl

theorem prompt_invalidEscape {letter : Nat} (hletter : ¬(escapes.lookup letter).isSome)
    (hunit : letter ≠ 'u'.toNat) {left : Text} :
    Prompt Fault.Told readItems ['\\'.toNat, letter] (.invalidEscape (some letter)) 0 left := by
  refine ⟨.letter, fun h => absurd h (by decide), ?_⟩
  intro shared behind _ _ behind' found hok
  rw [List.cons_append, List.cons_append, List.nil_append,
    readItems_of_not_escape hletter hunit] at hok
  cases hok

theorem prompt_invalidUnit {left : Text} (h : ¬HasUnit left) :
    Prompt Fault.Told readItems ['\\'.toNat, 'u'.toNat] .invalidUnit 4 left := by
  refine ⟨.unit h, fun _ => ?_, ?_⟩
  · exact ⟨['0'.toNat, '0'.toNat, '0'.toNat, '0'.toNat, '"'.toNat], _, readItems_single valid_zero⟩
  · intro shared behind hleft hlength behind' found hok
    match shared, hlength with
    | [a, b, c, d], _ =>
      subst hleft
      have hnot : ¬HasUnit ([a, b, c, d] ++ behind') := mt (hasUnit_iff.mpr ∘ hasUnit_iff.mp) h
      rw [List.cons_append, List.cons_append, List.nil_append,
        readItems_of_not_hasUnit hnot] at hok
      cases hok

theorem forward_readItems : Forward Fault.Told readItems := by
  constructor
  · exact ⟨['"'.toNat], [], readItems_quote⟩
  · intro text items rest hread
    obtain ⟨hitems, rfl⟩ := readItems_eq_ok_iff.mp hread
    refine ⟨items.flatMap Item.written ++ ['"'.toNat], by simp, fun rest' => ?_⟩
    rw [List.append_assoc]
    exact readItems_flatMap_written hitems rest'
  · intro text fault left hread
    fun_induction readItems text with
    | case1 =>
      cases hread
      refine ⟨[], 1, rfl, .of_head .unterminated ⟨['"'.toNat], [], readItems_quote⟩ ?_⟩
      simp
    | case2 => cases hread
    | case3 c rest hquote hplain ih =>
      obtain ⟨seen, n, rfl, hprompt⟩ := ih (onto_eq_error_iff.mp hread)
      exact ⟨_, n, rfl, prompt_written ⟨c, .plain hquote hplain⟩ hprompt⟩
    | case4 c _ hbackslash =>
      obtain rfl : c = '\\'.toNat := Decidable.of_not_not hbackslash
      cases hread
      refine ⟨['\\'.toNat], 1, rfl, .of_head .cutOff ?_ (by simp)⟩
      exact ⟨['n'.toNat, '"'.toNat], _, readItems_single valid_n⟩
    | case5 c _ hbackslash letter rest hletter ih =>
      obtain rfl : c = '\\'.toNat := Decidable.of_not_not hbackslash
      obtain ⟨seen, n, rfl, hprompt⟩ := ih (onto_eq_error_iff.mp hread)
      exact ⟨_, n, rfl, prompt_written (Item.valid_escape hletter) hprompt⟩
    | case6 c₀ _ hbackslash a b c d behind hhex _ ih =>
      obtain rfl : c₀ = '\\'.toNat := Decidable.of_not_not hbackslash
      obtain ⟨seen, n, rfl, hprompt⟩ := ih (onto_eq_error_iff.mp hread)
      simp only [Bool.and_eq_true, and_assoc] at hhex
      exact ⟨_, n, rfl, prompt_written (Item.valid_unit hhex) hprompt⟩
    | case7 c₀ _ hbackslash a b c d behind hhex =>
      obtain rfl : c₀ = '\\'.toNat := Decidable.of_not_not hbackslash
      cases hread
      exact ⟨_, 4, rfl, prompt_invalidUnit (mt hasUnit_iff.mp hhex)⟩
    | case8 c _ hbackslash rest hshort =>
      obtain rfl : c = '\\'.toNat := Decidable.of_not_not hbackslash
      cases hread
      refine ⟨_, 4, rfl, prompt_invalidUnit ?_⟩
      rintro ⟨a, b, c, d, behind, rfl, -⟩
      exact hshort a b c d behind rfl
    | case9 c _ hbackslash letter rest hletter hunit =>
      obtain rfl : c = '\\'.toNat := Decidable.of_not_not hbackslash
      cases hread
      exact ⟨_, 0, rfl, prompt_invalidEscape hletter hunit⟩

theorem read_eq : QuotedString.read =
    Reader.andThen readItems fun items rest => .ok (decode items, rest) := by
  funext text
  unfold QuotedString.read Reader.andThen
  cases readItems text <;> rfl

theorem forward_read : Forward Fault.Told QuotedString.read := by
  rw [read_eq]
  exact forward_readItems.andThen fun items => .pure (decode items)

end QuotedString

namespace InlinePlural

open QuotedString (Item)

/-- The fault is told by the first `n` characters of what is left. -/
inductive Reason.Told : Reason → Nat → Text → Prop
  | string {fault : QuotedString.Fault} {n : Nat} {left : Text} : fault.Told n left →
      Told (.string fault) n left
  | mark {reason : Reason} {left : Text} : (∀ fault, reason ≠ .string fault) → Told reason 1 left

variable {α : Type} {c : Nat} {text : Text}

theorem not_isSpace_of_skipSpaces {rest : Text} (h : skipSpaces text = c :: rest) :
    isSpace c = false := by
  have hhead := List.head?_dropWhile_not isSpace text
  unfold skipSpaces at h
  rw [h] at hhead
  simpa using hhead

/-- The next mark is none that the reader takes. -/
theorem prompt_mark {read : Reader Reason α} {reason : Reason}
    (hreason : ∀ fault, reason ≠ .string fault)
    (hmore : ∃ more a, ∀ b, Blank b → ∀ rest, read (b ++ (more ++ rest)) = .ok (a, rest))
    (hrefused : ∀ text', (skipSpaces text').head? = (skipSpaces text).head? →
      ∀ found, read text' ≠ .ok found) :
    ∃ seen n, text = seen ++ skipSpaces text ∧
      Prompt Reason.Told read seen reason n (skipSpaces text) := by
  obtain ⟨b, hb, htext⟩ := @exists_blank_append text _ rfl
  obtain ⟨more, a, hmore⟩ := hmore
  refine ⟨b, 1, htext, .of_head (.mark hreason) ⟨more, a, hmore b hb⟩ ?_⟩
  intro c behind hskip behind' found
  refine hrefused _ ?_ found
  rw [skipSpaces_blank_append_cons hb (not_isSpace_of_skipSpaces hskip), hskip]
  rfl

theorem skipSpaces_skipSpaces (text : Text) :
    skipSpaces (skipSpaces text) = skipSpaces text := by
  obtain ⟨b, hb, htext⟩ := @exists_blank_append text _ rfl
  conv_rhs => rw [htext, skipSpaces_blank_append hb]

/-- A mark as what a reader finds. -/
def mark (c : Nat) : Reader Reason Unit := fun text => (expect c text).map fun rest => ((), rest)

theorem expect_bind (next : Reader Reason α) :
    (expect c text >>= next) = (mark c).andThen (fun _ => next) text := by
  cases h : expect c text with
  | error fault =>
    have hmark : mark c text = .error fault := by rw [mark, h]; rfl
    rw [Reader.andThen_of_error hmark]
    rfl
  | ok rest =>
    have hmark : mark c text = .ok ((), rest) := by rw [mark, h]; rfl
    rw [Reader.andThen_of_ok hmark]
    rfl

theorem mark_eq_ok_iff (hc : isSpace c = false) {rest : Text} :
    mark c text = .ok ((), rest) ↔ ∃ b, Blank b ∧ text = b ++ c :: rest := by
  rw [← expect_eq_ok_iff hc, mark]
  cases expect c text <;> simp [Except.map]

theorem mark_eq_error_iff {reason : Reason} {left : Text} :
    mark c text = .error (reason, left) ↔
      (skipSpaces text).head? ≠ some c ∧ reason = .expected c ∧ left = skipSpaces text := by
  unfold mark expect
  cases skipSpaces text with
  | nil => simp [Except.map, eq_comm]
  | cons d rest =>
    by_cases hd : d = c
    · simp [Except.map, hd]
    · simp [Except.map, hd, eq_comm (a := reason), eq_comm (a := left)]

theorem head?_of_mark (hc : isSpace c = false) {found : Unit × Text} (h : mark c text = .ok found) :
    (skipSpaces text).head? = some c := by
  obtain ⟨b, hb, rfl⟩ := (mark_eq_ok_iff hc).mp h
  rw [skipSpaces_blank_append_cons hb hc, List.head?_cons]

theorem forward_mark (hc : isSpace c = false) : Forward Reason.Told (mark c) := by
  have hmark : ∀ b, Blank b → ∀ rest, mark c (b ++ ([c] ++ rest)) = .ok ((), rest) :=
    fun b hb rest => (mark_eq_ok_iff hc).mpr ⟨b, hb, rfl⟩
  constructor
  · exact ⟨[c], (), hmark [] blank_nil⟩
  · intro text u rest h
    obtain ⟨b, hb, rfl⟩ := (mark_eq_ok_iff hc).mp h
    refine ⟨b ++ [c], by simp, fun rest' => ?_⟩
    rw [List.append_assoc]
    exact hmark b hb rest'
  · intro text reason left h
    obtain ⟨hhead, rfl, rfl⟩ := mark_eq_error_iff.mp h
    refine prompt_mark (fun _ h => nomatch h) ⟨[c], (), hmark⟩ fun text' heq found hok => ?_
    exact hhead (heq ▸ head?_of_mark hc hok)

/-! ### Strings -/

/-- A string behind its opening quotation mark. -/
def inString : Reader Reason Text := fun text =>
  (QuotedString.read text).mapError fun fault => (.string fault.1, fault.2)

theorem forward_inString : Forward Reason.Told inString := by
  refine QuotedString.forward_read.renamed ?_ ?_
  · intro text found
    unfold inString
    cases QuotedString.read text with
    | error fault => constructor <;> intro hok <;> cases hok
    | ok found' => constructor <;> intro hok <;> cases hok <;> rfl
  · intro text reason left h
    unfold inString at h
    cases hread : QuotedString.read text with
    | error fault =>
      rw [hread] at h
      cases h
      exact ⟨fault.1, rfl, fun n htold => .string htold⟩
    | ok found =>
      rw [hread] at h
      cases h

theorem readString_quote {b : Text} (hb : Blank b) (rest : Text) :
    readString (b ++ '"'.toNat :: rest) = inString rest := by
  unfold readString
  rw [skipSpaces_blank_append_cons hb (by decide)]
  rfl

theorem readString_of_head? (h : (skipSpaces text).head? ≠ some '"'.toNat) :
    readString text = .error (.stringExpected, skipSpaces text) := by
  unfold readString
  cases hskip : skipSpaces text with
  | nil => rfl
  | cons d rest =>
    rw [hskip] at h
    exact if_neg fun hd => h (congrArg some hd)

theorem readString_skipSpaces (text : Text) : readString (skipSpaces text) = readString text := by
  rw [readString, readString, skipSpaces_skipSpaces]

/-- The empty string, wherever a string is read. -/
theorem readString_empty (b : Text) (hb : Blank b) (rest : Text) :
    readString (b ++ (['"'.toNat, '"'.toNat] ++ rest)) = .ok ([], rest) :=
  readString_eq_ok_iff.mpr
    ⟨b, _, [], hb, .mk fun _ h => absurd h List.not_mem_nil, rfl, rfl⟩

theorem forward_readString : Forward Reason.Told readString := by
  constructor
  · exact ⟨_, [], readString_empty [] blank_nil⟩
  · intro text s rest h
    obtain ⟨b, w, items, hb, hw, rfl, rfl⟩ := readString_eq_ok_iff.mp h
    refine ⟨b ++ w, (List.append_assoc _ _ _).symm, fun rest' => ?_⟩
    exact readString_eq_ok_iff.mpr ⟨b, w, items, hb, hw, rfl, List.append_assoc _ _ _⟩
  · intro text reason left h
    by_cases hhead : (skipSpaces text).head? = some '"'.toNat
    · obtain ⟨rest, hskip⟩ := List.head?_eq_some_iff.mp hhead
      obtain ⟨b, hb, rfl⟩ := exists_blank_append hskip
      rw [readString_quote hb] at h
      obtain ⟨seen, n, rfl, hprompt⟩ := forward_inString.faulted h
      refine ⟨b ++ ['"'.toNat] ++ seen, n, by simp, hprompt.behind (f := id) fun rest => ?_⟩
      rw [List.append_assoc, List.singleton_append, readString_quote hb]
      cases inString rest <;> rfl
    · rw [readString_of_head? hhead] at h
      cases h
      refine prompt_mark (fun _ h => nomatch h) ⟨_, [], readString_empty⟩ ?_
      intro text' heq found hok
      exact hhead (heq ▸ head?_skipSpaces_of_readString hok)

/-! ### Members and categories -/

/-- A reader that gives up, for a reason of its own, where the next mark is none that another one
takes. -/
theorem forward_unless {read : Reader Reason α} {p : Text → Prop} [DecidablePred p]
    (reason : Reason) (h : Forward Reason.Told read) (hreason : ∀ fault, reason ≠ .string fault)
    (hrefused : ∀ text, p (skipSpaces text) → ∃ reason',
      read text = .error (reason', skipSpaces text) ∧ ∀ fault, reason' ≠ .string fault) :
    Forward Reason.Told fun text =>
      if p (skipSpaces text) then .error (reason, skipSpaces text) else read text := by
  refine h.renamed (fun text found => ?_) fun text reason' left hread => ?_
  · split
    · next hp =>
      obtain ⟨reason', hread, -⟩ := hrefused text hp
      simp [hread]
    · exact Iff.rfl
  · split at hread
    · next hp =>
      obtain ⟨reason'', hread', hother⟩ := hrefused text hp
      cases hread
      refine ⟨reason'', hread', fun n htold => ?_⟩
      cases htold with
      | string => exact absurd rfl (hother _)
      | mark => exact .mark hreason
    · exact ⟨reason', hread, fun n htold => htold⟩

/-- A template behind the tag and the colon. -/
def readTemplate (tag : Text) : Reader Reason (Text × Text) := fun text =>
  if (skipSpaces text).head? = some '"'.toNat then
    Reader.andThen readString (fun template rest => .ok ((tag, template), rest)) text
  else .error (.templateNotString tag, skipSpaces text)

theorem readMember_eq : readMember =
    Reader.andThen readString fun tag => (mark ':'.toNat).andThen fun _ => readTemplate tag := by
  funext text
  unfold readMember
  refine bind_congr fun found => ?_
  exact expect_bind (readTemplate found.1)

theorem forward_readTemplate (tag : Text) : Forward Reason.Told (readTemplate tag) := by
  have hread : Forward Reason.Told
      (Reader.andThen readString fun template rest => .ok ((tag, template), rest)) :=
    forward_readString.andThen fun template => .pure (tag, template)
  have hunless := forward_unless (p := fun text => text.head? ≠ some '"'.toNat)
    (.templateNotString tag) hread (fun _ h => nomatch h) fun text hhead =>
      ⟨.stringExpected, Reader.andThen_of_error (readString_of_head? hhead), fun _ h => nomatch h⟩
  simp only [ne_eq, ite_not] at hunless
  exact hunless

theorem forward_readMember : Forward Reason.Told readMember := by
  rw [readMember_eq]
  exact forward_readString.andThen fun tag =>
    (forward_mark (by decide)).andThen fun _ => forward_readTemplate tag

/-- What stands behind a member: a comma and more members, or the closing brace. -/
def readTail (m : Text × Text) : Reader Reason (List (Text × Text)) := fun text =>
  match skipSpaces text with
  | [] => .error (.expected '}'.toNat, [])
  | c :: after =>
    if c = ','.toNat then Text.onto m (readMembers after)
    else if c = '}'.toNat then .ok ([m], after)
    else .error (.expected '}'.toNat, c :: after)

theorem readMembers_eq : readMembers = Reader.andThen readMember readTail := by
  funext text
  rw [readMembers.eq_def]
  split
  · next h => exact (Reader.andThen_of_error h).symm
  · next h =>
    rw [Reader.andThen_of_ok h, readTail]
    split
    · next hskip => rw [hskip]
    · next hskip => rw [hskip]

theorem readTail_comma (m : Text × Text) {b : Text} (hb : Blank b) (rest : Text) :
    readTail m (b ++ ','.toNat :: rest) = Text.onto m (readMembers rest) := by
  unfold readTail
  rw [skipSpaces_blank_append_cons hb (by decide)]
  exact if_pos rfl

theorem readTail_brace (m : Text × Text) (b : Text) (hb : Blank b) (rest : Text) :
    readTail m (b ++ (['}'.toNat] ++ rest)) = .ok ([m], rest) := by
  unfold readTail
  rw [List.singleton_append, skipSpaces_blank_append_cons hb (by decide)]
  rfl

theorem prompt_readTail {m : Text × Text} (hcomma : (skipSpaces text).head? ≠ some ','.toNat)
    (hbrace : (skipSpaces text).head? ≠ some '}'.toNat) :
    ∃ seen n, text = seen ++ skipSpaces text ∧
      Prompt Reason.Told (readTail m) seen (.expected '}'.toNat) n (skipSpaces text) := by
  refine prompt_mark (fun _ h => nomatch h) ⟨_, _, readTail_brace m⟩ ?_
  intro text' heq found hok
  rw [← heq] at hcomma hbrace
  unfold readTail at hok
  cases hskip : skipSpaces text' with
  | nil =>
    rw [hskip] at hok
    cases hok
  | cons c after =>
    rw [hskip] at hok hcomma hbrace
    dsimp only at hok
    rw [if_neg fun hc => hcomma (congrArg some hc),
      if_neg fun hc => hbrace (congrArg some hc)] at hok
    cases hok

theorem forward_readMembers : Forward Reason.Told readMembers := by
  constructor
  · obtain ⟨w, m, hw⟩ := forward_readMember.possible
    refine ⟨w ++ ['}'.toNat], [m], fun rest => ?_⟩
    rw [readMembers_eq, List.append_assoc, Reader.andThen_of_ok (hw _)]
    exact readTail_brace m [] blank_nil rest
  · intro text read rest h
    obtain ⟨b, w, b', members, hb, hw, hb', rfl, rfl⟩ := readMembers_eq_ok_iff.mp h
    refine ⟨b ++ (w ++ (b' ++ ['}'.toNat])), by simp, fun rest' => ?_⟩
    exact readMembers_eq_ok_iff.mpr ⟨b, w, b', members, hb, hw, hb', rfl, by simp⟩
  · -- along the recursion of the reader; a fault is in a member, behind it or in the next ones
    intro text reason left h
    have hbehind : ∀ {text m rest}, readMember text = .ok (m, rest) →
        (∃ seen n, rest = seen ++ left ∧ Prompt Reason.Told (readTail m) seen reason n left) →
        ∃ seen n, text = seen ++ left ∧ Prompt Reason.Told readMembers seen reason n left := by
      rintro text m rest hm ⟨seen, n, hrest, hprompt⟩
      obtain ⟨used, rfl, hused⟩ := forward_readMember.found hm
      rw [readMembers_eq]
      exact ⟨used ++ seen, n, by rw [hrest, List.append_assoc], hprompt.andThen_behind hused⟩
    fun_induction readMembers text with
    | case1 text fault hm =>
      cases h
      obtain ⟨seen, n, htext, hprompt⟩ := forward_readMember.faulted hm
      rw [readMembers_eq]
      exact ⟨seen, n, htext,
        hprompt.andThen fun m => ⟨_, [m], readTail_brace m [] blank_nil⟩⟩
    | case2 text m rest hm hskip =>
      cases h
      refine hbehind hm ?_
      rw [← hskip]
      exact prompt_readTail (by simp [hskip]) (by simp [hskip])
    | case3 text m rest hm after hskip ih =>
      obtain ⟨b, hb, rfl⟩ := exists_blank_append hskip
      obtain ⟨seen, n, rfl, hprompt⟩ := ih (onto_eq_error_iff.mp h)
      refine hbehind hm ⟨b ++ [','.toNat] ++ seen, n, by simp, ?_⟩
      refine hprompt.behind (f := (m :: ·)) fun rest => ?_
      rw [List.append_assoc]
      exact readTail_comma m hb rest
    | case4 => cases h
    | case5 text m rest hm c after hskip hcomma hbrace =>
      cases h
      refine hbehind hm ?_
      rw [← hskip]
      refine prompt_readTail ?_ ?_
      · simpa [hskip] using hcomma
      · simpa [hskip] using hbrace

theorem readMember_skipSpaces (text : Text) : readMember (skipSpaces text) = readMember text := by
  rw [readMember_eq]
  unfold Reader.andThen
  rw [readString_skipSpaces]

theorem readMembers_skipSpaces (text : Text) :
    readMembers (skipSpaces text) = readMembers text := by
  rw [readMembers_eq]
  unfold Reader.andThen
  rw [readMember_skipSpaces]

theorem readMembers_of_head? (h : (skipSpaces text).head? ≠ some '"'.toNat) :
    readMembers text = .error (.stringExpected, skipSpaces text) := by
  rw [readMembers_eq, readMember_eq]
  exact Reader.andThen_of_error (Reader.andThen_of_error (readString_of_head? h))

/-- Where no members are found whatever follows, the next mark does not depend on what follows. -/
theorem head?_skipSpaces_congr {seen : Text}
    (h : ∀ behind found, readMembers (seen ++ behind) ≠ .ok found) (behind behind' : Text) :
    (skipSpaces (seen ++ behind)).head? = (skipSpaces (seen ++ behind')).head? := by
  have hne : seen.dropWhile isSpace ≠ [] := by
    intro hempty
    obtain ⟨w, members, hw⟩ := forward_readMembers.possible
    refine h (w ++ []) (members, []) ?_
    rw [← readMembers_skipSpaces, skipSpaces, List.dropWhile_append, hempty]
    exact (readMembers_skipSpaces _).trans (hw [])
  have hhead : ∀ behind, (skipSpaces (seen ++ behind)).head? = (seen.dropWhile isSpace).head? := by
    intro behind
    rw [skipSpaces, List.dropWhile_append, if_neg (by simpa using hne), List.head?_append,
      Option.or_of_isSome (List.isSome_head?.mpr hne)]
  rw [hhead, hhead]

/-- The members behind the opening brace, or the closing one. -/
def readInner : Reader Reason (List (Text × Text)) := fun text =>
  match skipSpaces text with
  | [] => readMembers []
  | c :: after => if c = '}'.toNat then .ok ([], after) else readMembers (c :: after)

theorem readCategories_eq : readCategories = (mark '{'.toNat).andThen fun _ => readInner := by
  funext text
  exact expect_bind readInner

theorem readInner_of_head? (h : (skipSpaces text).head? ≠ some '}'.toNat) :
    readInner text = readMembers text := by
  unfold readInner
  rw [← readMembers_skipSpaces text]
  cases hskip : skipSpaces text with
  | nil => rfl
  | cons c after =>
    rw [hskip] at h
    exact if_neg fun hc => h (congrArg some hc)

theorem readInner_brace {b : Text} (hb : Blank b) (rest : Text) :
    readInner (b ++ '}'.toNat :: rest) = .ok ([], rest) := by
  unfold readInner
  rw [skipSpaces_blank_append_cons hb (by decide)]
  rfl

theorem readInner_of_readMembers {found : List (Text × Text) × Text}
    (h : readMembers text = .ok found) : readInner text = .ok found := by
  rw [readInner_of_head?, h]
  intro hbrace
  rw [readMembers_of_head? (by rw [hbrace]; decide)] at h
  cases h

theorem forward_readInner : Forward Reason.Told readInner := by
  constructor
  · exact ⟨['}'.toNat], [], readInner_brace blank_nil⟩
  · intro text read rest h
    by_cases hhead : (skipSpaces text).head? = some '}'.toNat
    · obtain ⟨after, hskip⟩ := List.head?_eq_some_iff.mp hhead
      obtain ⟨b, hb, rfl⟩ := exists_blank_append hskip
      rw [readInner_brace hb] at h
      cases h
      refine ⟨b ++ ['}'.toNat], by simp, fun rest' => ?_⟩
      rw [List.append_assoc]
      exact readInner_brace hb rest'
    · rw [readInner_of_head? hhead] at h
      obtain ⟨used, htext, hused⟩ := forward_readMembers.found h
      exact ⟨used, htext, fun rest' => readInner_of_readMembers (hused rest')⟩
  · intro text reason left h
    have hhead : (skipSpaces text).head? ≠ some '}'.toNat := by
      intro hbrace
      obtain ⟨after, hskip⟩ := List.head?_eq_some_iff.mp hbrace
      obtain ⟨b, hb, rfl⟩ := exists_blank_append hskip
      rw [readInner_brace hb] at h
      cases h
    rw [readInner_of_head? hhead] at h
    obtain ⟨seen, n, rfl, hprompt⟩ := forward_readMembers.faulted h
    refine ⟨seen, n, rfl, hprompt.told, fun hn => ?_, ?_⟩
    · obtain ⟨more, read, hmore⟩ := hprompt.completed hn
      exact ⟨more, read, fun rest => readInner_of_readMembers (hmore rest)⟩
    · intro shared behind hleft hlength behind' found hok
      have hfinal : ∀ behind' found, readMembers (seen ++ shared ++ behind') ≠ .ok found := by
        intro behind' found
        rw [List.append_assoc]
        exact hprompt.final shared behind hleft hlength behind' found
      rw [hleft, ← List.append_assoc, head?_skipSpaces_congr hfinal behind behind'] at hhead
      rw [← List.append_assoc, readInner_of_head? hhead] at hok
      exact hfinal behind' found hok

theorem forward_readCategories : Forward Reason.Told readCategories := by
  rw [readCategories_eq]
  exact (forward_mark (by decide)).andThen fun _ => forward_readInner

/-- The closing brace behind the categories, as what a reader finds. -/
def readClosing : Reader Reason Unit := fun text =>
  if (skipSpaces text).head? = some ','.toNat then .error (.secondCountKey, skipSpaces text)
  else mark '}'.toNat text

theorem forward_readClosing : Forward Reason.Told readClosing := by
  refine forward_unless (p := fun text => text.head? = some ','.toNat) .secondCountKey
    (forward_mark (by decide)) (fun _ h => nomatch h) fun text hcomma =>
      ⟨.expected '}'.toNat, ?_, fun _ h => nomatch h⟩
  refine mark_eq_error_iff.mpr ⟨?_, rfl, rfl⟩
  rw [hcomma]
  decide

/-- What stands between the braces of an inline plural, and the closing one. -/
def readPlural : Reader Reason InlinePlural :=
  Reader.andThen readString fun key => (mark ':'.toNat).andThen fun _ =>
    Reader.andThen readCategories fun members => readClosing.andThen fun _ rest =>
      .ok (⟨key, members.foldl put []⟩, rest)

theorem forward_readPlural : Forward Reason.Told readPlural :=
  forward_readString.andThen fun key => (forward_mark (by decide)).andThen fun _ =>
    forward_readCategories.andThen fun members =>
      forward_readClosing.andThen fun _ => .pure (InlinePlural.mk key (members.foldl put []))

theorem readEnd_bind (next : Reader Reason α) :
    (readEnd text >>= next) = readClosing.andThen (fun _ => next) text := by
  by_cases h : (skipSpaces text).head? = some ','.toNat
  · have hclosing : readClosing text = .error (.secondCountKey, skipSpaces text) := if_pos h
    rw [Reader.andThen_of_error hclosing, readEnd, if_pos h]
    rfl
  · have hclosing : readClosing text = mark '}'.toNat text := if_neg h
    rw [readEnd, if_neg h, expect_bind]
    unfold Reader.andThen
    rw [hclosing]

theorem readRoot_eq : readRoot = (mark '{'.toNat).andThen fun _ text =>
    if (skipSpaces text).head? = some '}'.toNat then .error (.missingCountKey, skipSpaces text)
    else readPlural text := by
  funext text
  unfold readRoot
  refine (bind_congr fun rest => ?_).trans (expect_bind _)
  split
  · rfl
  · refine bind_congr fun key => ?_
    refine (bind_congr fun rest => ?_).trans (expect_bind _)
    exact bind_congr fun members => readEnd_bind _

theorem forward_readRoot : Forward Reason.Told readRoot := by
  rw [readRoot_eq]
  refine (forward_mark (by decide)).andThen fun _ => ?_
  refine forward_unless (p := fun text => text.head? = some '}'.toNat) .missingCountKey
    forward_readPlural (fun _ h => nomatch h) fun text hbrace =>
      ⟨.stringExpected, ?_, fun _ h => nomatch h⟩
  refine Reader.andThen_of_error (readString_of_head? ?_)
  rw [hbrace]
  decide

end InlinePlural

end Phrasebook
