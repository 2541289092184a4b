import DesignLint.Decimal.Binary64

namespace DesignLint.Decimal

-- All ends are multiples of `2 ^ (exponent - 2)`; they belong to the interval when the significand
-- is even.
structure Interval where
  low : Nat
  value : Nat
  high : Nat
  exponent : Int
  closed : Bool

namespace Interval

def around (significand : Nat) (exponent : Int) : Interval where
  low := 4 * significand -
    (if significand = Binary64.fractionSize ∧ -1074 < exponent then 1 else 2)
  value := 4 * significand
  high := 4 * significand + 2
  exponent := exponent - 2
  closed := significand % 2 == 0

def holds (i : Interval) (digits : Nat) (scale : Int) : Bool :=
  let here := digits * Nat.pow 10 scale.toNat * Nat.pow 2 (-i.exponent).toNat
  let unit := Nat.pow 10 (-scale).toNat * Nat.pow 2 i.exponent.toNat
  if i.closed then decide (i.low * unit ≤ here) && decide (here ≤ i.high * unit)
  else decide (i.low * unit < here) && decide (here < i.high * unit)

def quotient (i : Interval) (scale : Int) : Nat × Nat :=
  (i.value * Nat.pow 2 i.exponent.toNat * Nat.pow 10 (-scale).toNat,
   Nat.pow 2 (-i.exponent).toNat * Nat.pow 10 scale.toNat)

def magnitude (i : Interval) : Int :=
  let (num, den) := i.quotient 0
  if den ≤ num then Int.ofNat (Nat.toDigits 10 (num / den)).length - 1
  else match (List.range 400).find? fun k => decide (den ≤ num * Nat.pow 10 k) with
    | some k => -Int.ofNat k
    | none => -400

def onGrid? (i : Interval) (scale : Int) : Option Nat :=
  let (num, den) := i.quotient scale
  let below := num / den
  match i.holds below scale, i.holds (below + 1) scale with
  | true, true => some (Binary64.roundDiv num den)
  | true, false => some below
  | false, true => some (below + 1)
  | false, false => none

-- The first grid with a hit wins; of two hits the nearer, or the even one if both are as near.
def shortest (i : Interval) : Nat × Int :=
  let top := i.magnitude
  let grids := (List.range 17).map fun k => top - Int.ofNat k
  match grids.findSome? fun scale => (i.onGrid? scale).map (·, scale) with
  | some hit => hit
  | none => (i.value, 0)

end Interval

structure Layout where
  lowest : Int
  highest : Int

def standardLayout : Layout := ⟨-4, 15⟩

def zeros (n : Nat) : List Char := List.replicate n '0'

def Layout.write (l : Layout) (digits : List Char) (top : Int) : List Char :=
  if l.lowest ≤ top ∧ top ≤ l.highest then
    if top < 0 then '0' :: '.' :: (zeros ((-top).toNat - 1) ++ digits)
    else
      let whole := digits.take (top.toNat + 1)
      let rest := digits.drop (top.toNat + 1)
      whole ++ zeros (top.toNat + 1 - whole.length) ++ '.' :: (if rest.isEmpty then ['0'] else rest)
  else
    let power := (Nat.toDigits 10 top.natAbs)
    digits.take 1 ++ (if digits.length ≤ 1 then [] else '.' :: digits.drop 1) ++
      'e' :: (if top < 0 then '-' else '+') :: (zeros (2 - power.length) ++ power)

namespace Binary64

def toText (x : Binary64) : String :=
  match x.reading with
  | .nan => "nan"
  | .infinite negative => if negative then "-inf" else "inf"
  | .finite negative significand exponent =>
    let sign := if negative then ['-'] else []
    if significand = 0 then String.ofList (sign ++ ['0', '.', '0'])
    else
      let (digits, scale) := (Interval.around significand exponent).shortest
      let written := Nat.toDigits 10 digits
      let trimmed := (written.reverse.dropWhile (· == '0')).reverse
      let top := scale + Int.ofNat written.length - 1
      String.ofList (sign ++ standardLayout.write trimmed top)

end Binary64

end DesignLint.Decimal
