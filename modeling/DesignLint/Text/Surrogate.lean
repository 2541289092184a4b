namespace DesignLint.Text

-- No character stands for half of a pair, so it is held as the character of the last private plane
-- that lies as far above it as that plane begins.
def ofHalf (unit : Nat) : Char := Char.ofNat (0x100000 + unit)

def half? (c : Char) : Option Nat :=
  if 0x10D800 ≤ c.toNat ∧ c.toNat < 0x10E000 then some (c.toNat - 0x100000) else none

def codeOf (c : Char) : Nat :=
  (half? c).getD c.toNat

def precedes (a b : String) : Bool :=
  !List.lex (b.toList.map codeOf) (a.toList.map codeOf) fun x y => decide (x < y)

end DesignLint.Text
