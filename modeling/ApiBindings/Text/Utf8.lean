set_option autoImplicit false

namespace ApiBindings.Text.Utf8

abbrev Bytes := List UInt8

def encode (text : String) : Bytes := text.toList.flatMap String.utf8EncodeChar

inductive Piece where
  | char (c : Char)
  | invalid (length : Nat)
  | incomplete
deriving DecidableEq, Repr

-- A character whose first bytes were read: how many follow, the range of the
-- next one, the value so far and how many bytes it took.
structure Sequence where
  left : Nat
  low : Nat
  high : Nat
  value : Nat
  taken : Nat

def begin (b : Nat) : List Piece × Option Sequence :=
  if b < 0x80 then ([.char (Char.ofNat b)], none)
  else if 0xc2 ≤ b ∧ b ≤ 0xdf then ([], some ⟨1, 0x80, 0xbf, b - 0xc0, 1⟩)
  else if b = 0xe0 then ([], some ⟨2, 0xa0, 0xbf, 0, 1⟩)
  else if b = 0xed then ([], some ⟨2, 0x80, 0x9f, 0xd, 1⟩)
  else if 0xe1 ≤ b ∧ b ≤ 0xef then ([], some ⟨2, 0x80, 0xbf, b - 0xe0, 1⟩)
  else if b = 0xf0 then ([], some ⟨3, 0x90, 0xbf, 0, 1⟩)
  else if 0xf1 ≤ b ∧ b ≤ 0xf3 then ([], some ⟨3, 0x80, 0xbf, b - 0xf0, 1⟩)
  else if b = 0xf4 then ([], some ⟨3, 0x80, 0x8f, 4, 1⟩)
  else ([.invalid 1], none)

def step (open? : Option Sequence) (b : Nat) : List Piece × Option Sequence :=
  match open? with
  | none => begin b
  | some s =>
    if s.low ≤ b ∧ b ≤ s.high then
      let value := s.value * 64 + (b - 0x80)
      if s.left = 1 then ([.char (Char.ofNat value)], none)
      else ([], some ⟨s.left - 1, 0x80, 0xbf, value, s.taken + 1⟩)
    else
      let (pieces, next) := begin b
      (.invalid s.taken :: pieces, next)

def piecesFrom (open? : Option Sequence) : Bytes → List Piece
  | [] => if open?.isSome then [.incomplete] else []
  | b :: rest =>
    let (pieces, next) := step open? b.toNat
    pieces ++ piecesFrom next rest

def pieces (bytes : Bytes) : List Piece := piecesFrom none bytes

-- Where bytes stop being text: after how many of them, and how many are at
-- fault unless the end came first.
structure Fault where
  index : Nat
  length : Option Nat
deriving DecidableEq, Repr

def Fault.message (f : Fault) : String :=
  match f.length with
  | some n => s!"invalid utf-8 sequence of {n} bytes from index {f.index}"
  | none => s!"incomplete utf-8 byte sequence from index {f.index}"

def textFrom (index : Nat) : List Piece → Except Fault (List Char)
  | [] => .ok []
  | .char c :: rest => (textFrom (index + c.utf8Size) rest).map (c :: ·)
  | .invalid n :: _ => .error ⟨index, some n⟩
  | .incomplete :: _ => .error ⟨index, none⟩

def decode (bytes : Bytes) : Except Fault String := (textFrom 0 (pieces bytes)).map String.ofList

def decode? (bytes : Bytes) : Option String := (decode bytes).toOption

def decodeMarking (bytes : Bytes) : String :=
  String.ofList <| (pieces bytes).map fun
    | .char c => c
    | _ => '\ufffd'

end ApiBindings.Text.Utf8
