namespace DesignLint.Text.Utf8

inductive Fault where
  | start
  | continuation
  | truncated
deriving DecidableEq, Repr

inductive Piece where
  | char (c : Char) (width : Nat)
  | fault (cause : Fault) (width : Nat)
deriving DecidableEq, Repr

namespace Piece

def width : Piece → Nat
  | char _ w => w
  | fault _ w => w

def toChar : Piece → Char
  | char c _ => c
  | fault _ _ => Char.ofNat 0xFFFD

end Piece

-- The range of the first continuation byte excludes overlong forms, surrogates and code points
-- beyond the last.
structure Lead where
  payload : Nat
  count : Nat
  low : Nat
  high : Nat

def lead? (b : Nat) : Option Lead :=
  if b < 0xC2 then none
  else if b < 0xE0 then some ⟨b - 0xC0, 1, 0x80, 0xBF⟩
  else if b < 0xF0 then
    some ⟨b - 0xE0, 2, if b = 0xE0 then 0xA0 else 0x80, if b = 0xED then 0x9F else 0xBF⟩
  else if b < 0xF5 then
    some ⟨b - 0xF0, 3, if b = 0xF0 then 0x90 else 0x80, if b = 0xF4 then 0x8F else 0xBF⟩
  else none

def continued (code taken : Nat) : (count low high : Nat) → List UInt8 → Piece
  | 0, _, _, _ => .char (Char.ofNat code) taken
  | _ + 1, _, _, [] => .fault .truncated taken
  | count + 1, low, high, b :: rest =>
    if low ≤ b.toNat ∧ b.toNat ≤ high then
      continued (code * 64 + b.toNat % 64) (taken + 1) count 0x80 0xBF rest
    else .fault .continuation taken

-- Each longest run of bytes that could still have become a character, and did not, is one fault.
def front (b : UInt8) (rest : List UInt8) : Piece :=
  if b.toNat < 0x80 then .char (Char.ofNat b.toNat) 1
  else match lead? b.toNat with
    | none => .fault .start 1
    | some l => continued l.payload 1 l.count l.low l.high rest

def piecesFrom : Nat → List UInt8 → List Piece
  | _, [] => []
  | skip + 1, _ :: rest => piecesFrom skip rest
  | 0, b :: rest =>
    let p := front b rest
    p :: piecesFrom (p.width - 1) rest

def pieces (bytes : List UInt8) : List Piece :=
  piecesFrom 0 bytes

def decode (bytes : List UInt8) : String :=
  String.ofList ((pieces bytes).map Piece.toChar)

def firstFault : Nat → List Piece → Option (Fault × Nat × Nat)
  | _, [] => none
  | at_, .char _ w :: rest => firstFault (at_ + w) rest
  | at_, .fault cause w :: _ => some (cause, at_, w)

def decode? (bytes : List UInt8) : Except (Fault × Nat × Nat) String :=
  match firstFault 0 (pieces bytes) with
  | some f => .error f
  | none => .ok (decode bytes)

def encode (s : String) : List UInt8 :=
  s.toUTF8.toList

end DesignLint.Text.Utf8
