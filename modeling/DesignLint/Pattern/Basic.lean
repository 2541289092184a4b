import DesignLint.Pattern.CharClass

namespace DesignLint

inductive Anchor where
  | start
  | lineStart
  | finish
  | lineFinish
  | close
  -- An empty text has no edge, and no other place either.
  | edge (wanted ascii : Bool)
deriving DecidableEq, Repr

namespace Anchor

def isWord (ascii : Bool) (c : Char) : Bool :=
  if ascii then c.isAlphanum || c == '_' else Text.isWord c

def holds (before : Option Char) (rest : List Char) : Anchor → Bool
  | start => before.isNone
  | lineStart => before.isNone || before == some '\n'
  | finish => rest.isEmpty || rest == ['\n']
  | lineFinish => rest.isEmpty || rest.head? == some '\n'
  | close => rest.isEmpty
  | edge wanted ascii =>
    (before.isSome || !rest.isEmpty) &&
      ((before.any (isWord ascii) != rest.head?.any (isWord ascii)) == wanted)

end Anchor

inductive Greed where
  | greedy
  | lazy
  | possessive
deriving DecidableEq, Repr

inductive Pattern where
  | empty
  | oneOf (k : CharClass)
  | seq (p q : Pattern)
  | alt (p q : Pattern)
  | repeated (p : Pattern) (least : Nat) (most : Option Nat) (greed : Greed)
  | anchor (a : Anchor)
  | group (number : Nat) (p : Pattern)
  | same (number : Nat) (rule : CaseRule)
  | ahead (wanted : Bool) (p : Pattern)
  | behind (wanted : Bool) (width : Nat) (p : Pattern)
  | atomic (p : Pattern)
  | given (number : Nat) (p q : Pattern)
deriving DecidableEq, Repr

namespace Pattern

def never : Pattern := oneOf ⟨false, [], .exact⟩

def literal (c : Char) : Pattern := oneOf ⟨false, [.single c], .exact⟩

def sequence : List Pattern → Pattern
  | [] => empty
  | [p] => p
  | p :: rest => seq p (sequence rest)

def choice : List Pattern → Pattern
  | [] => never
  | [p] => p
  | p :: rest => alt p (choice rest)

def isRegular : Pattern → Bool
  | empty => true
  | oneOf _ => true
  | seq p q => p.isRegular && q.isRegular
  | alt p q => p.isRegular && q.isRegular
  | repeated p _ _ greed => p.isRegular && greed != .possessive
  | anchor _ => true
  | group _ p => p.isRegular
  | _ => false

end Pattern

end DesignLint
