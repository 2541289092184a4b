import DesignLint.Text.Ranges

namespace DesignLint.Text

structure Shift where
  first : Nat
  last : Nat
  step : Nat
  offset : Int

namespace Shift

def covers (s : Shift) (code : Nat) : Bool :=
  decide (s.first ≤ code) && decide (code ≤ s.last) && (code - s.first) % s.step == 0

def apply (shifts : List Shift) (c : Char) : Char :=
  match shifts.find? (·.covers c.toNat) with
  | some s => Char.ofNat (Int.toNat (Int.ofNat c.toNat + s.offset))
  | none => c

end Shift

end DesignLint.Text
