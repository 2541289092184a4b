import DesignLint.Text.Blank
import DesignLint.Text.Digit

namespace DesignLint.Text

def isMargin (c : Char) : Bool :=
  isBlank c && !(decide (28 ≤ c.toNat) && decide (c.toNat ≤ 31))

-- `fresh` tells that no underscore may come next.
def digitsOnto (fresh : Bool) (n : Nat) : List Char → Option Nat
  | [] => if fresh then none else some n
  | c :: cs =>
    if c = '_' then (if fresh then none else digitsOnto true n cs)
    else match digitValue? c with
      | some d => digitsOnto false (n * 10 + d) cs
      | none => none

def digitLimit : Nat := 4300

def wholeNumber? (s : List Char) : Option Int :=
  let core := ((s.dropWhile isMargin).reverse.dropWhile isMargin).reverse
  let (negative, digits) := match core with
    | '-' :: rest => (true, rest)
    | '+' :: rest => (false, rest)
    | rest => (false, rest)
  if digitLimit < digits.countP (· != '_') then none
  else (digitsOnto true 0 digits).map fun n => if negative then -Int.ofNat n else Int.ofNat n

end DesignLint.Text
