import Phrasebook.Template.Placeholder

/-! The pieces of a text: placeholders, and the literal text between them. -/

namespace Phrasebook

inductive Piece where
  | literal (text : Text)
  | placeholder (p : Placeholder)
  deriving DecidableEq

namespace Piece

/-- The pieces with a character of literal text before them. -/
def push (c : Nat) : List Piece → List Piece
  | .literal text :: pieces => .literal (c :: text) :: pieces
  | pieces => .literal [c] :: pieces

/-- The pieces of a text from left to right.  Two percent signs stand for one; a percent sign that
begins no placeholder stands for itself. -/
def scan : Text → List Piece
  | [] => []
  | [c] => [.literal [c]]
  | c :: d :: rest =>
    if c = '%'.toNat then
      if d = '%'.toNat then push '%'.toNat (scan rest)
      else match _h : Placeholder.read? (d :: rest) with
        | some (p, after) => .placeholder p :: scan after
        | none => push '%'.toNat (scan (d :: rest))
    else push c (scan (d :: rest))
termination_by text => text.length
decreasing_by
  · simp only [List.length_cons]
    omega
  · have := Placeholder.length_le_of_read? _h
    simp only [List.length_cons] at *
    omega
  · simp
  · simp

end Piece

end Phrasebook
