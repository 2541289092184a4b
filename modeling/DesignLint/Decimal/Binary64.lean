namespace DesignLint.Decimal

structure Binary64 where
  bits : Nat
deriving DecidableEq, Repr

inductive Reading where
  | finite (negative : Bool) (significand : Nat) (exponent : Int)
  | infinite (negative : Bool)
  | nan
deriving DecidableEq, Repr

namespace Binary64

def fractionSize : Nat := 0x10000000000000

def infinityBits : Nat := 0x7FF * fractionSize

def signBit : Nat := 0x8000000000000000

def infinity : Binary64 := ⟨infinityBits⟩

def nan : Binary64 := ⟨infinityBits + fractionSize / 2⟩

def negate (x : Binary64) : Binary64 :=
  ⟨if x.bits < signBit then x.bits + signBit else x.bits - signBit⟩

def reading (x : Binary64) : Reading :=
  let negative := decide (signBit ≤ x.bits)
  let rest := x.bits % signBit
  let biased := rest / fractionSize
  let fraction := rest % fractionSize
  if biased = 0x7FF then (if fraction = 0 then .infinite negative else .nan)
  else if biased = 0 then .finite negative fraction (-1074)
  else .finite negative (fractionSize + fraction) (Int.ofNat biased - 1075)

def isZero (x : Binary64) : Bool :=
  x.bits % signBit == 0

-- A half goes to the even neighbour.
def roundDiv (num den : Nat) : Nat :=
  let q := num / den
  let r := num % den
  if 2 * r > den ∨ (2 * r = den ∧ q % 2 = 1) then q + 1 else q

def scaled (num den : Nat) (exponent : Int) : Nat × Nat :=
  (num * Nat.pow 2 (-exponent).toNat, den * Nat.pow 2 exponent.toNat)

def ofQuotient (num den : Nat) : Binary64 :=
  if num = 0 then ⟨0⟩
  else
    let least : Int := max (-1074) (Int.ofNat num.log2 - Int.ofNat den.log2 - 53)
    let fits (q : Int) : Bool :=
      let (n, d) := scaled num den q
      decide (n / d < 2 * fractionSize)
    let exponent := if fits least then least else if fits (least + 1) then least + 1 else least + 2
    let (n, d) := scaled num den exponent
    let significand := roundDiv n d
    let bits :=
      if significand < fractionSize then significand
      else (exponent + 1075).toNat * fractionSize + (significand - fractionSize)
    if bits < infinityBits then ⟨bits⟩ else infinity

def ofDecimal (negative : Bool) (digits : Nat) (exponent : Int) : Binary64 :=
  let size : Int := Int.ofNat (Nat.toDigits 10 digits).length
  let magnitude :=
    if digits = 0 ∨ size + exponent < -330 then ⟨0⟩
    else if 310 < size + exponent then infinity
    else ofQuotient (digits * Nat.pow 10 exponent.toNat) (Nat.pow 10 (-exponent).toNat)
  if negative then magnitude.negate else magnitude

end Binary64

end DesignLint.Decimal
