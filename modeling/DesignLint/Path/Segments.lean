import DesignLint.Language
import DesignLint.Text.Search
import DesignLint.Text.Surrogate

namespace DesignLint

structure Segments where
  root : String
  parts : List String
deriving DecidableEq, Repr

inductive PathFault where
  | halfPair
  | zero
deriving DecidableEq, Repr

namespace PathFault

-- The halves from U+DC80 to U+DCFF stand for the bytes of names in other encodings.
def isHalfPair (c : Char) : Bool :=
  (Text.half? c).any fun unit => !(decide (0xDC80 ≤ unit) && decide (unit ≤ 0xDCFF))

def of? (path : String) : Option PathFault :=
  if path.toList.any isHalfPair then some halfPair
  else if path.toList.contains '\x00' then some zero
  else none

end PathFault

namespace Segments

def rootOf : List Char → String
  | '/' :: '/' :: '/' :: _ => "/"
  | '/' :: '/' :: _ => "//"
  | '/' :: _ => "/"
  | _ => ""

def read (path : String) : Segments where
  root := rootOf path.toList
  parts := ((Text.split '/' path.toList).filter fun s => s ≠ [] ∧ s ≠ ['.']).map String.ofList

def text (p : Segments) : String :=
  if p.root = "" ∧ p.parts = [] then "." else p.root ++ "/".intercalate p.parts

def name (p : Segments) : String := p.parts.getLast?.getD ""

def extension (p : Segments) : String :=
  let name := p.name.toList
  let after := (name.reverse.takeWhile (· != '.')).reverse
  let before := name.length - after.length - 1
  if after.length < name.length ∧ 0 < before ∧ after ≠ [] then String.ofList ('.' :: after)
  else ""

def language? (p : Segments) : Option Language := Language.ofExtension? p.extension

end Segments

end DesignLint
