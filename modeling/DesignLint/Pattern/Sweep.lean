import DesignLint.Pattern.Basic
import DesignLint.Text.Marks

namespace DesignLint

namespace Marks

def anchored (a : Anchor) (before : Option Char) : List Char → Marks
  | [] => [a.holds before []]
  | c :: cs => a.holds before (c :: cs) :: anchored a (some c) cs

def iterate (f : Marks → Marks) : Nat → Marks → Marks
  | 0, m => m
  | n + 1, m =>
    let next := f m
    if next = m then m else iterate f n next

def spread (f : Marks → Marks) : Nat → Marks → Marks
  | 0, m => m
  | n + 1, m =>
    let more := m.union (f m)
    if more = m then m else spread f n more

end Marks

namespace Pattern

-- Beyond one repetition per character and one more, further repetitions match nothing new; without
-- marks nothing is left to move.
def move (text : List Char) : Pattern → Marks → Marks
  | empty, m => m
  | oneOf k, m => m.advance k.holds text
  | seq p q, m =>
    let after := p.move text m
    if after.any id then q.move text after else after
  | alt p q, m => (p.move text m).union (q.move text m)
  | repeated p least most _, m =>
    let enough := text.length + 1
    let first := Marks.iterate (p.move text) (min least enough) m
    match p, most with
    | oneOf k, none => first.carry k.holds false text
    | _, none => Marks.spread (p.move text) enough first
    | _, some n => Marks.spread (p.move text) (min (n - least) enough) first
  | anchor a, m => m.inter (Marks.anchored a none text)
  | group _ p, m => p.move text m
  | _, m => m.map fun _ => false

def sweeps (p : Pattern) (text : List Char) : Bool :=
  (p.move text (Marks.all text)).any id

end Pattern

end DesignLint
