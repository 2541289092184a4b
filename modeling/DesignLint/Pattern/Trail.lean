import DesignLint.Pattern.Basic

namespace DesignLint

structure Cursor where
  position : Nat := 0
  before : List Char := []
  rest : List Char
  held : List (Nat × List Char) := []

namespace Cursor

def over? (test : Char → Bool) (s : Cursor) : Option Cursor :=
  match s.rest with
  | [] => none
  | c :: cs =>
    if test c then some { s with position := s.position + 1, before := c :: s.before, rest := cs }
    else none

def overText? (rule : CaseRule) : List Char → Cursor → Option Cursor
  | [], s => some s
  | c :: cs, s => (s.over? fun x => rule.fold x == rule.fold c).bind (overText? rule cs)

def back? : Nat → Cursor → Option Cursor
  | 0, s => some s
  | n + 1, s =>
    match s.before with
    | [] => none
    | c :: cs => back? n { s with position := s.position - 1, before := cs, rest := c :: s.rest }

def hold (s : Cursor) (number : Nat) (first : Cursor) : Cursor :=
  { s with held := (number, first.rest.take (s.position - first.position)) :: s.held }

def held? (number : Nat) (s : Cursor) : Option (List Char) :=
  s.held.lookup number

end Cursor

abbrev Onward := Cursor → Option Cursor

namespace Pattern

def taken (step : Cursor → Onward → Option Cursor) : Nat → Cursor → Onward → Option Cursor
  | 0, s, onward => onward s
  | n + 1, s, onward => step s fun t => taken step n t onward

-- The step is not taken again where the last one has led nowhere.
def takenMore (step : Cursor → Onward → Option Cursor) (onward : Onward) :
    Nat → Option Nat → Cursor → Option Cursor
  | 0, _, s => onward s
  | n + 1, last, s =>
    match (if last = some s.position then none
      else step s (takenMore step onward n (some s.position))) with
    | some t => some t
    | none => onward s

def takenLess (step : Cursor → Onward → Option Cursor) (onward : Onward) :
    Nat → Option Nat → Cursor → Option Cursor
  | 0, _, s => onward s
  | n + 1, last, s =>
    match onward s with
    | some t => some t
    | none =>
      if last = some s.position then none
      else step s (takenLess step onward n (some s.position))

def takenFirst (step : Cursor → Option Cursor) : Nat → Cursor → Option Cursor
  | 0, s => some s
  | n + 1, s => (step s).bind (takenFirst step n)

def takenAll (step : Cursor → Option Cursor) : Nat → Cursor → Cursor
  | 0, s => s
  | n + 1, s =>
    match step s with
    | some t => if t.position = s.position then t else takenAll step n t
    | none => s

-- A text of `size` characters is passed in one repetition per character and one more at most.
def trail (size : Nat) : Pattern → Cursor → Onward → Option Cursor
  | empty, s, onward => onward s
  | oneOf k, s, onward => (s.over? k.holds).bind onward
  | seq p q, s, onward => p.trail size s fun t => q.trail size t onward
  | alt p q, s, onward =>
    match p.trail size s onward with
    | some t => some t
    | none => q.trail size s onward
  | repeated p least most greed, s, onward =>
    let required := min least (size + 1)
    let optional := match most with
      | some n => min (n - least) (size + 1)
      | none => size + 1
    match greed with
    | .greedy => taken (p.trail size) required s (takenMore (p.trail size) onward optional none)
    | .lazy => taken (p.trail size) required s (takenLess (p.trail size) onward optional none)
    | .possessive =>
      let step := fun t => p.trail size t some
      (takenFirst step required s).bind fun t => onward (takenAll step optional t)
  | anchor a, s, onward => if a.holds s.before.head? s.rest then onward s else none
  | group number p, s, onward => p.trail size s fun t => onward (t.hold number s)
  | same number rule, s, onward =>
    (s.held? number).bind fun text => (s.overText? rule text).bind onward
  | ahead wanted p, s, onward =>
    match p.trail size s some with
    | some t => if wanted then onward { s with held := t.held } else none
    | none => if wanted then none else onward s
  | behind wanted width p, s, onward =>
    match (s.back? width).bind fun t => p.trail size t some with
    | some t => if wanted then onward { s with held := t.held } else none
    | none => if wanted then none else onward s
  | atomic p, s, onward => (p.trail size s some).bind onward
  | given number p q, s, onward =>
    if (s.held? number).isSome then p.trail size s onward else q.trail size s onward

def followsFrom (p : Pattern) (size : Nat) (position : Nat) (before : List Char) :
    List Char → Bool
  | [] => (p.trail size { position, before, rest := [] } some).isSome
  | c :: cs =>
    (p.trail size { position, before, rest := c :: cs } some).isSome ||
      followsFrom p size (position + 1) (c :: before) cs

def follows (p : Pattern) (text : List Char) : Bool :=
  p.followsFrom text.length 0 [] text

end Pattern

end DesignLint
