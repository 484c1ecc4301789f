import Phrasebook.Number.Digits

/-! Text from the bytes of its UTF-8 form. -/

namespace Phrasebook.Utf8

/-- What is wrong with a byte, or with the bytes of a character that was begun. -/
inductive Reason where
  | start
  | continuation
  | ending
  deriving DecidableEq

/-- The first of some bytes that are in no character, its place, and how many they are. -/
structure Fault where
  byte : Nat
  position : Nat
  count : Nat
  reason : Reason
  deriving DecidableEq

/-- The number of bytes of a character. -/
def size (c : Nat) : Nat :=
  if c < 0x80 then 1 else if c < 0x800 then 2 else if c < 0x10000 then 3 else 4

/-- The number of bytes of a text. -/
def length : Text → Nat
  | [] => 0
  | c :: text => size c + length text

def isContinuation (b : Nat) : Bool := 0x80 ≤ b && b ≤ 0xBF

/-- Whether a second byte is in the range that the first allows, which keeps out long forms,
surrogates and numbers past the last code point. -/
def isSecond (first b : Nat) : Bool :=
  let low := if first = 0xE0 then 0xA0 else if first = 0xF0 then 0x90 else 0x80
  let high := if first = 0xED then 0x9F else if first = 0xF4 then 0x8F else 0xBF
  low ≤ b && b ≤ high

def push (c : Nat) : Except Fault Text → Except Fault Text
  | .ok text => .ok (c :: text)
  | .error fault => .error fault

/-- The text of the bytes from a position on. -/
def decodeFrom (position : Nat) : List Nat → Except Fault Text
  | [] => .ok []
  | a :: rest =>
    if a < 0x80 then push a (decodeFrom (position + 1) rest)
    else if a < 0xC2 then .error ⟨a, position, 1, .start⟩
    else if a < 0xE0 then
      match rest with
      | [] => .error ⟨a, position, 1, .ending⟩
      | b :: rest =>
        if isContinuation b then
          push ((a - 0xC0) * 64 + (b - 0x80)) (decodeFrom (position + 2) rest)
        else .error ⟨a, position, 1, .continuation⟩
    else if a < 0xF0 then
      match rest with
      | [] => .error ⟨a, position, 1, .ending⟩
      | [b] => .error ⟨a, position, if isSecond a b then 2 else 1,
          if isSecond a b then .ending else .continuation⟩
      | b :: c :: rest =>
        if !isSecond a b then .error ⟨a, position, 1, .continuation⟩
        else if !isContinuation c then .error ⟨a, position, 2, .continuation⟩
        else
          push ((a - 0xE0) * 4096 + (b - 0x80) * 64 + (c - 0x80))
            (decodeFrom (position + 3) rest)
    else if a < 0xF5 then
      match rest with
      | [] => .error ⟨a, position, 1, .ending⟩
      | [b] => .error ⟨a, position, if isSecond a b then 2 else 1,
          if isSecond a b then .ending else .continuation⟩
      | [b, c] =>
        if !isSecond a b then .error ⟨a, position, 1, .continuation⟩
        else if !isContinuation c then .error ⟨a, position, 2, .continuation⟩
        else .error ⟨a, position, 3, .ending⟩
      | b :: c :: d :: rest =>
        if !isSecond a b then .error ⟨a, position, 1, .continuation⟩
        else if !isContinuation c then .error ⟨a, position, 2, .continuation⟩
        else if !isContinuation d then .error ⟨a, position, 3, .continuation⟩
        else
          push ((a - 0xF0) * 262144 + (b - 0x80) * 4096 + (c - 0x80) * 64 + (d - 0x80))
            (decodeFrom (position + 4) rest)
    else .error ⟨a, position, 1, .start⟩

def decode (bytes : List Nat) : Except Fault Text := decodeFrom 0 bytes

/-- Bytes in pieces of the length `size`, of which the last may be shorter. -/
def pieces (size : Nat) (bytes : List Nat) : List (List Nat) :=
  if _ : size = 0 ∨ bytes = [] then []
  else bytes.take size :: pieces size (bytes.drop size)
termination_by bytes.length
decreasing_by
  have := List.length_pos_iff.mpr (fun h : bytes = [] => by simp_all)
  simp only [List.length_drop]
  omega

/-- Whether bytes in which a fault was found are held back for the next piece: a character that was
begun, or two of the three bytes of a surrogate. -/
def isHeldBack (fault : Fault) (bytes : List Nat) : Bool :=
  match bytes with
  | [0xED, b] => isContinuation b
  | _ => fault.reason = .ending

/-- The text of bytes that come in pieces behind the bytes `held` that were held back.  The places of
faults are counted from there. -/
def decodePieces (held : List Nat) : List (List Nat) → Except Fault Text
  | [] => decode held
  | piece :: pieces =>
    let bytes := held ++ piece
    match decode bytes with
    | .ok text => (text ++ ·) <$> decodePieces [] pieces
    | .error fault =>
      if isHeldBack fault (bytes.drop fault.position) then do
        let text ← decode (bytes.take fault.position)
        return text ++ (← decodePieces (bytes.drop fault.position) pieces)
      else .error fault

/-- The text of bytes that are read `size` at a time. -/
def decodeBy (size : Nat) (bytes : List Nat) : Except Fault Text :=
  decodePieces [] (pieces size bytes)

open Text (lit hex numeral)

def Reason.message : Reason → Text
  | .start => lit "invalid start byte"
  | .continuation => lit "invalid continuation byte"
  | .ending => lit "unexpected end of data"

def Fault.message (fault : Fault) : Text :=
  let place :=
    if fault.count = 1 then
      lit "byte 0x" ++ hex 2 fault.byte ++ lit " in position " ++ numeral 10 fault.position
    else
      lit "bytes in position " ++ numeral 10 fault.position ++ '-'.toNat ::
        numeral 10 (fault.position + fault.count - 1)
  lit "'utf-8' codec can't decode " ++ place ++ lit ": " ++ fault.reason.message

end Phrasebook.Utf8
