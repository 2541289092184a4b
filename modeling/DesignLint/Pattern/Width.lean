import DesignLint.Pattern.Basic

namespace DesignLint

structure Width where
  least : Nat
  most : Option Nat
deriving DecidableEq, Repr

namespace Width

def zero : Width := ⟨0, some 0⟩

def one : Width := ⟨1, some 1⟩

def plus : Option Nat → Option Nat → Option Nat
  | some m, some n => some (m + n)
  | _, _ => none

def add (a b : Width) : Width := ⟨a.least + b.least, plus a.most b.most⟩

def either (a b : Width) : Width :=
  ⟨min a.least b.least, match a.most, b.most with
    | some m, some n => some (max m n)
    | _, _ => none⟩

def times (a : Width) (least : Nat) (most : Option Nat) : Width :=
  ⟨a.least * least, match a.most, most with
    | some m, some n => some (m * n)
    | some 0, none => some 0
    | none, some 0 => some 0
    | _, _ => none⟩

def fixed? (a : Width) : Option Nat :=
  if a.most = some a.least then some a.least else none

end Width

namespace Pattern

def width (groups : Nat → Width) : Pattern → Width
  | empty => .zero
  | oneOf _ => .one
  | seq p q => (p.width groups).add (q.width groups)
  | alt p q => (p.width groups).either (q.width groups)
  | repeated p least most _ => (p.width groups).times least most
  | anchor _ => .zero
  | group _ p => p.width groups
  | same number _ => groups number
  | ahead _ _ => .zero
  | behind _ _ _ => .zero
  | atomic p => p.width groups
  | given _ p q => (p.width groups).either (q.width groups)

end Pattern

end DesignLint
