import Phrasebook.Text.Basic

/-! Readers that go forward.  What such a reader finds depends on nothing but the characters that it
has read.  A fault comes at the first chance: what is read before it can be completed, and with the
characters that tell the fault it can not. -/

namespace Phrasebook.Text

/-- A function that reads from the start of a text and gives the rest of it too; a fault comes with
the text that is left where it was found. -/
abbrev Reader (ρ α : Type) := Text → Except (ρ × Text) (α × Text)

/-- One reader and then another one, which what was found chooses. -/
def Reader.andThen {ρ α β : Type} (read : Reader ρ α) (next : α → Reader ρ β) : Reader ρ β :=
  fun text => read text >>= fun found => next found.1 found.2

section

variable {ρ α : Type} (told : ρ → Nat → Text → Prop) (read : Reader ρ α)

/-- Behind `seen` the reader is right to give up at the text `left`: its first `n` characters tell
the fault, and nothing is found in any text that goes on with them.  Without them something can be
found, unless the fault is told by `seen` alone. -/
structure Prompt (seen : Text) (r : ρ) (n : Nat) (left : Text) : Prop where
  told : told r n left
  completed : 0 < n → ∃ more a, ∀ rest, read (seen ++ (more ++ rest)) = .ok (a, rest)
  final : ∀ shared behind, left = shared ++ behind → shared.length = n →
    ∀ behind' found, read (seen ++ (shared ++ behind')) ≠ .ok found

/-- The reader can find something, finds the same whatever follows, and gives up at the first
chance. -/
structure Forward : Prop where
  possible : ∃ w a, ∀ rest, read (w ++ rest) = .ok (a, rest)
  found : ∀ {text : Text} {a : α} {rest : Text}, read text = .ok (a, rest) →
    ∃ used, text = used ++ rest ∧ ∀ rest', read (used ++ rest') = .ok (a, rest')
  faulted : ∀ {text : Text} {r : ρ} {left : Text}, read text = .error (r, left) →
    ∃ seen n, text = seen ++ left ∧ Prompt told read seen r n left

end

variable {ρ ρ' α β : Type} {told : ρ → Nat → Text → Prop} {told' : ρ' → Nat → Text → Prop}
  {seen left : Text} {r : ρ} {n : Nat}

theorem Reader.andThen_of_ok {read : Reader ρ α} {next : α → Reader ρ β} {text rest : Text} {a : α}
    (h : read text = .ok (a, rest)) : read.andThen next text = next a rest := by
  unfold andThen
  rw [h]
  rfl

theorem Reader.andThen_of_error {read : Reader ρ α} {next : α → Reader ρ β} {text : Text}
    {fault : ρ × Text} (h : read text = .error fault) : read.andThen next text = .error fault := by
  unfold andThen
  rw [h]
  rfl

namespace Prompt

/-- A fault that one character tells, or the end of the text. -/
theorem of_head {read : Reader ρ α} (htold : told r 1 left)
    (hmore : ∃ more a, ∀ rest, read (seen ++ (more ++ rest)) = .ok (a, rest))
    (hfinal : ∀ c behind, left = c :: behind → ∀ behind' found,
      read (seen ++ c :: behind') ≠ .ok found) : Prompt told read seen r 1 left := by
  refine ⟨htold, fun _ => hmore, ?_⟩
  intro shared behind hleft hlength behind' found
  obtain ⟨c, rfl⟩ := List.length_eq_one_iff.mp hlength
  exact hfinal c behind hleft behind' found

/-- A fault of the first of two readers. -/
theorem andThen {read : Reader ρ α} {next : α → Reader ρ β} (h : Prompt told read seen r n left)
    (hpossible : ∀ a, ∃ w b, ∀ rest, next a (w ++ rest) = .ok (b, rest)) :
    Prompt told (read.andThen next) seen r n left := by
  refine ⟨h.told, fun hn => ?_, ?_⟩
  · obtain ⟨more, a, hmore⟩ := h.completed hn
    obtain ⟨w, b, hw⟩ := hpossible a
    refine ⟨more ++ w, b, fun rest => ?_⟩
    rw [List.append_assoc, Reader.andThen_of_ok (hmore (w ++ rest)), hw]
  · intro shared behind hleft hlength behind' found hok
    cases hread : read (seen ++ (shared ++ behind')) with
    | error fault =>
      rw [Reader.andThen_of_error hread] at hok
      cases hok
    | ok found' => exact h.final shared behind hleft hlength behind' found' hread

/-- A fault of a reader that goes on behind `used`. -/
theorem behind {read : Reader ρ α} {next : Reader ρ β} {used : Text} {f : β → α}
    (h : Prompt told next seen r n left)
    (hused : ∀ rest, read (used ++ rest) = (next rest).map (Prod.map f id)) :
    Prompt told read (used ++ seen) r n left := by
  refine ⟨h.told, fun hn => ?_, ?_⟩
  · obtain ⟨more, b, hmore⟩ := h.completed hn
    refine ⟨more, f b, fun rest => ?_⟩
    rw [List.append_assoc, hused, hmore]
    rfl
  · intro shared behind hleft hlength behind' found hok
    rw [List.append_assoc, hused] at hok
    cases hnext : next (seen ++ (shared ++ behind')) with
    | error fault =>
      rw [hnext] at hok
      cases hok
    | ok found' => exact h.final shared behind hleft hlength behind' found' hnext

/-- A fault of the second of two readers. -/
theorem andThen_behind {read : Reader ρ α} {next : α → Reader ρ β} {used : Text} {a : α}
    (hused : ∀ rest, read (used ++ rest) = .ok (a, rest))
    (h : Prompt told (next a) seen r n left) :
    Prompt told (read.andThen next) (used ++ seen) r n left := by
  refine h.behind (f := id) fun rest => ?_
  rw [Reader.andThen_of_ok (hused rest)]
  cases next a rest <;> rfl

/-- Another reader that finds the same, and another name of the fault. -/
theorem renamed {read : Reader ρ α} {read' : Reader ρ' α} {r' : ρ'}
    (h : Prompt told read seen r n left) (htold : told' r' n left)
    (hok : ∀ text found, read' text = .ok found ↔ read text = .ok found) :
    Prompt told' read' seen r' n left := by
  refine ⟨htold, fun hn => ?_, ?_⟩
  · obtain ⟨more, a, hmore⟩ := h.completed hn
    exact ⟨more, a, fun rest => (hok _ _).mpr (hmore rest)⟩
  · intro shared behind hleft hlength behind' found hread
    exact h.final shared behind hleft hlength behind' found ((hok _ _).mp hread)

end Prompt

namespace Forward

theorem pure (a : α) : Forward told fun rest => .ok (a, rest) where
  possible := ⟨[], a, fun _ => rfl⟩
  found h := by
    cases h
    exact ⟨[], rfl, fun _ => rfl⟩
  faulted h := nomatch h

theorem andThen {read : Reader ρ α} {next : α → Reader ρ β} (h : Forward told read)
    (hnext : ∀ a, Forward told (next a)) : Forward told (read.andThen next) := by
  constructor
  · obtain ⟨w, a, hw⟩ := h.possible
    obtain ⟨w', b, hw'⟩ := (hnext a).possible
    refine ⟨w ++ w', b, fun rest => ?_⟩
    rw [List.append_assoc, Reader.andThen_of_ok (hw _), hw']
  · intro text b rest hread
    cases hfirst : read text with
    | error fault =>
      rw [Reader.andThen_of_error hfirst] at hread
      cases hread
    | ok found =>
      rw [Reader.andThen_of_ok hfirst] at hread
      obtain ⟨used, rfl, hused⟩ := h.found hfirst
      obtain ⟨used', hrest, hused'⟩ := (hnext found.1).found hread
      refine ⟨used ++ used', by rw [hrest, List.append_assoc], fun rest' => ?_⟩
      rw [List.append_assoc, Reader.andThen_of_ok (hused _), hused']
  · intro text r left hread
    cases hfirst : read text with
    | error fault =>
      rw [Reader.andThen_of_error hfirst] at hread
      cases hread
      obtain ⟨seen, n, htext, hprompt⟩ := h.faulted hfirst
      exact ⟨seen, n, htext, hprompt.andThen fun a => (hnext a).possible⟩
    | ok found =>
      rw [Reader.andThen_of_ok hfirst] at hread
      obtain ⟨used, rfl, hused⟩ := h.found hfirst
      obtain ⟨seen, n, hrest, hprompt⟩ := (hnext found.1).faulted hread
      exact ⟨used ++ seen, n, by rw [hrest, List.append_assoc], hprompt.andThen_behind hused⟩

/-- A reader that finds the same and gives up at the same places, for reasons of its own. -/
theorem renamed {read : Reader ρ α} {read' : Reader ρ' α} (h : Forward told read)
    (hok : ∀ text found, read' text = .ok found ↔ read text = .ok found)
    (herror : ∀ text r' left, read' text = .error (r', left) →
      ∃ r, read text = .error (r, left) ∧ ∀ n, told r n left → told' r' n left) :
    Forward told' read' := by
  constructor
  · obtain ⟨w, a, hw⟩ := h.possible
    exact ⟨w, a, fun rest => (hok _ _).mpr (hw rest)⟩
  · intro text a rest hread
    obtain ⟨used, htext, hused⟩ := h.found ((hok _ _).mp hread)
    exact ⟨used, htext, fun rest' => (hok _ _).mpr (hused rest')⟩
  · intro text r' left hread
    obtain ⟨r, hfault, htold⟩ := herror text r' left hread
    obtain ⟨seen, n, htext, hprompt⟩ := h.faulted hfault
    exact ⟨seen, n, htext, hprompt.renamed (htold n hprompt.told) hok⟩

end Forward

end Phrasebook.Text
