import Mathlib.Data.Nat.Find
import Phrasebook.Proofs.Template.InlineReader

/-! Faults of inline plurals come at the first chance: what stands before the place of a fault can
be completed to an inline plural, and with the characters that tell it nothing can. -/

namespace Phrasebook.InlinePlural

open Text (skipSpaces lit)

variable {text : Text}

/-- Something is accepted that goes on from the text. -/
def Viable (text : Text) : Prop := ∃ behind plural, parse (text ++ behind) = .ok plural

/-- The first `n` characters of the body are viable, and no more of them are. -/
structure IsLongestViable (body : Text) (n : Nat) : Prop where
  le : n ≤ body.length
  viable : Viable (body.take n)
  greatest : ∀ m, m ≤ body.length → Viable (body.take m) → m ≤ n

theorem Viable.of_append {text behind : Text} (h : Viable (text ++ behind)) : Viable text := by
  obtain ⟨behind', plural, hparse⟩ := h
  exact ⟨behind ++ behind', plural, by rwa [← List.append_assoc]⟩

theorem Viable.take_of_le {m n : Nat} (h : Viable (text.take n)) (hmn : m ≤ n) :
    Viable (text.take m) := by
  obtain ⟨behind, hbehind⟩ := List.take_prefix_take_left (l := text) hmn
  rw [← hbehind] at h
  exact h.of_append

theorem exists_isLongestViable {m : Nat} (hm : m ≤ text.length) (h : Viable (text.take m)) :
    ∃ n, IsLongestViable text n ∧ m ≤ n := by
  classical
  refine ⟨Nat.findGreatest (fun n => Viable (text.take n)) text.length, ⟨?_, ?_, ?_⟩, ?_⟩
  · exact Nat.findGreatest_le _
  · exact Nat.findGreatest_spec (P := fun n => Viable (text.take n)) hm h
  · exact fun n hn hviable => Nat.le_findGreatest hn hviable
  · exact Nat.le_findGreatest hm h

theorem readWhole_eq_ok_iff_readRoot {body : Text} {plural : InlinePlural} :
    readWhole body = .ok plural ↔
      ∃ rest, readRoot body = .ok (plural, rest) ∧ skipSpaces rest = [] := by
  rw [readWhole, bind_eq_ok_iff]
  constructor
  · rintro ⟨⟨plural', rest⟩, hroot, h⟩
    dsimp only at h
    split at h
    · next hskip =>
      cases h
      exact ⟨rest, hroot, hskip⟩
    · cases h
  · rintro ⟨rest, hroot, hskip⟩
    refine ⟨_, hroot, ?_⟩
    dsimp only
    rw [hskip]
    rfl

theorem viable_iff : Viable text ↔ ∃ behind plural rest,
    readRoot (text ++ behind) = .ok (plural, rest) ∧ skipSpaces rest = [] := by
  simp only [Viable, parse_eq_ok_iff_readWhole, readWhole_eq_ok_iff_readRoot]

/-- Where the fault of a body stands: what is before it is viable, and what tells it is not. -/
structure FaultAt (body seen : Text) (reason : Reason) (n : Nat) (left : Text) : Prop where
  body_eq : body = seen ++ left
  told : reason.Told n left
  viable : 0 < n → Viable seen
  final : n ≤ left.length → ¬Viable (seen ++ left.take n)

theorem faultAt_of_readRoot {body left : Text} {reason : Reason}
    (h : readRoot body = .error (reason, left)) : ∃ seen n, FaultAt body seen reason n left := by
  obtain ⟨seen, n, hbody, hprompt⟩ := forward_readRoot.faulted h
  refine ⟨seen, n, hbody, hprompt.told, fun hn => ?_, fun hn hviable => ?_⟩
  · obtain ⟨more, plural, hmore⟩ := hprompt.completed hn
    exact viable_iff.mpr ⟨more ++ [], plural, [], hmore [], rfl⟩
  · obtain ⟨behind, plural, rest, hroot, -⟩ := viable_iff.mp hviable
    rw [List.append_assoc] at hroot
    have hshared : (left.take n).length = n := by rw [List.length_take, Nat.min_eq_left hn]
    exact hprompt.final _ _ (List.take_append_drop n left).symm hshared _ _ hroot

theorem faultAt_of_trailing {body rest left : Text} {plural : InlinePlural} {c : Nat}
    (h : readRoot body = .ok (plural, rest)) (hskip : skipSpaces rest = c :: left) :
    ∃ seen n, FaultAt body seen .trailingContent n (c :: left) := by
  obtain ⟨used, rfl, hused⟩ := forward_readRoot.found h
  obtain ⟨b, hb, rfl⟩ := exists_blank_append hskip
  refine ⟨used ++ b, 1, by simp, .mark fun _ h => (nomatch h), fun _ => ?_, fun _ hviable => ?_⟩
  · have hblank : skipSpaces b = [] := by
      have h := skipSpaces_blank_append hb []
      rwa [List.append_nil] at h
    exact viable_iff.mpr ⟨[], plural, b, by rw [List.append_nil, hused], hblank⟩
  · obtain ⟨behind, plural', rest, hroot, hrest⟩ := viable_iff.mp hviable
    simp only [List.append_assoc, List.take_succ_cons, List.take_zero, List.singleton_append,
      hused] at hroot
    cases hroot
    rw [skipSpaces_blank_append_cons hb (not_isSpace_of_skipSpaces hskip)] at hrest
    cases hrest

theorem exists_faultAt {body : Text} {fault : Fault} (h : readWhole body = .error fault) :
    ∃ seen n, FaultAt body seen fault.1 n fault.2 := by
  unfold readWhole at h
  cases hroot : readRoot body with
  | error fault' =>
    rw [hroot] at h
    cases h
    exact faultAt_of_readRoot hroot
  | ok found =>
    obtain ⟨plural, rest⟩ := found
    rw [hroot] at h
    simp only [bind, Except.bind] at h
    split at h
    · cases h
    · next hskip =>
      cases h
      exact faultAt_of_trailing hroot hskip

theorem FaultAt.lt {body seen left : Text} {reason : Reason} {n m : Nat}
    (h : FaultAt body seen reason n left) (hm : m ≤ body.length) (hviable : Viable (body.take m)) :
    m < seen.length + n := by
  by_contra hle
  have hlength : body.length = seen.length + left.length := by rw [h.body_eq, List.length_append]
  refine h.final (by omega) ?_
  have htake := hviable.take_of_le (Nat.le_of_not_lt hle)
  rwa [h.body_eq, List.take_length_add_append] at htake

theorem Reason.Told.pos {reason : Reason} {n : Nat} {left : Text} (h : reason.Told n left)
    (hescape : ∀ letter, reason ≠ .string (.invalidEscape letter)) : 0 < n := by
  cases h with
  | mark => exact Nat.one_pos
  | string htold =>
    cases htold with
    | letter => exact absurd rfl (hescape _)
    | unterminated => exact Nat.one_pos
    | cutOff => exact Nat.one_pos
    | unit => exact Nat.succ_pos 3

theorem Reason.Told.eq_one {reason : Reason} {n : Nat} {left : Text} (h : reason.Told n left)
    (hescape : ∀ letter, reason ≠ .string (.invalidEscape letter))
    (hunit : reason ≠ .string .invalidUnit) : n = 1 := by
  cases h with
  | mark => rfl
  | string htold =>
    cases htold with
    | letter => exact absurd rfl (hescape _)
    | unterminated => rfl
    | cutOff => rfl
    | unit => exact absurd rfl hunit

theorem Reason.Told.not_hasUnit {n : Nat} {left : Text}
    (h : Reason.Told (.string .invalidUnit) n left) : n = 4 ∧ ¬QuotedString.HasUnit left := by
  cases h with
  | mark hother => exact absurd rfl (hother _)
  | string htold =>
    cases htold with
    | unit hnot => exact ⟨rfl, hnot⟩

/-- A fault that is no bad escape is reported where the longest viable beginning of the body ends;
only the digits of a unit are faulted as a whole, at the first of them. -/
theorem parse_faults_earliest {body : Text} {e : Malformed} (h : parse body = .error e)
    (hescape : ∀ letter, e.reason ≠ .string (.invalidEscape letter)) :
    e.offset ≤ body.length ∧ Viable (body.take e.offset) ∧
      (e.reason ≠ .string .invalidUnit → IsLongestViable body e.offset) ∧
      (e.reason = .string .invalidUnit →
        (∃ n, IsLongestViable body n ∧ e.offset ≤ n ∧ n ≤ e.offset + 3) ∧
          ¬QuotedString.HasUnit (body.drop e.offset)) := by
  obtain ⟨⟨reason, left⟩, hread, rfl⟩ := exists_of_parse_error h
  obtain ⟨seen, n, hfault⟩ := exists_faultAt hread
  have hbody : body = seen ++ left := hfault.body_eq
  have hoffset : offset body (reason, left) = seen.length := by
    rw [offset_of_ne (hescape none), hbody, List.length_append, Nat.add_sub_cancel]
  dsimp only at hescape ⊢
  rw [hoffset]
  have hle : seen.length ≤ body.length := by
    rw [hbody, List.length_append]
    exact Nat.le_add_right _ _
  have hviable : Viable (body.take seen.length) := by
    rw [hbody, List.take_left]
    exact hfault.viable (hfault.told.pos hescape)
  refine ⟨hle, hviable, fun hunit => ⟨hle, hviable, fun m hm hlonger => ?_⟩, ?_⟩
  · have hlt := hfault.lt hm hlonger
    rw [hfault.told.eq_one hescape hunit] at hlt
    exact Nat.le_of_lt_succ hlt
  · rintro rfl
    obtain ⟨rfl, hnot⟩ := hfault.told.not_hasUnit
    obtain ⟨n, hlongest, hn⟩ := exists_isLongestViable hle hviable
    have hlt := hfault.lt hlongest.le hlongest.viable
    refine ⟨⟨n, hlongest, hn, by omega⟩, ?_⟩
    rwa [hbody, List.drop_left]

/-- A brace behind a comma is faulted itself; a unit with a letter among its digits is faulted at
the first of them. -/
theorem parse_faults_earliest_comma :
    IsLongestViable (lit "\x7b\"n\":\x7b\"one\":\"x\",\x7d\x7d") 16 ∧
      ∃ n, IsLongestViable (lit "\x7b\"\\u12g4") n ∧ 4 ≤ n ∧ n ≤ 7 := by
  have hcomma : parse (lit "\x7b\"n\":\x7b\"one\":\"x\",\x7d\x7d") =
      .error ⟨lit "\x7b\"n\":\x7b\"one\":\"x\",\x7d\x7d", 16, .stringExpected⟩ := by decide +kernel
  have hunit : parse (lit "\x7b\"\\u12g4") =
      .error ⟨lit "\x7b\"\\u12g4", 4, .string .invalidUnit⟩ := by decide +kernel
  constructor
  · exact (parse_faults_earliest hcomma (by simp)).2.2.1 (by simp)
  · exact ((parse_faults_earliest hunit (by simp)).2.2.2 rfl).1

end Phrasebook.InlinePlural
