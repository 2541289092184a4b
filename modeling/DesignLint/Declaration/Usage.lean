import DesignLint.Declaration.Basic

namespace DesignLint

inductive Use where
  | call (object member : String)
  | access (object member : String)
deriving DecidableEq, Repr

namespace Use

def object : Use → String
  | call o _ => o
  | access o _ => o

def member : Use → String
  | call _ m => m
  | access _ m => m

def of? (make : String → String → Use) (object member : Option String) : Option Use :=
  match object, member with
  | some o, some m => if o = "" ∨ m = "" then none else some (make o m)
  | _, _ => none

def names (t : SyntaxTree) : Option String × Option String :=
  match t.link .object, t.link .property with
  | some o, some p =>
    if o.kind = .identifier ∧ o.label.type ≠ "this" then (o.name, p.name) else (none, none)
  | _, _ => (none, none)

def ofCall? (t : SyntaxTree) : Option Use :=
  match t.link .callee with
  | some callee =>
    if callee.kind = .member then of? call (names callee).1 (names callee).2 else none
  | none => none

def ofMember? (t : SyntaxTree) : Option Use :=
  of? access (names t).1 (names t).2

def concerns (u : Use) (d : Declaration) : Bool :=
  d.name = u.object ||
    match u with
    | call object _ =>
      d.isInterface && Text.occurs (Text.lower d.name.toList) (Text.lower object.toList)
    | access .. => false

def markFirst (name : String) : List Method → List Method
  | [] => []
  | m :: rest => if m.name = name then m.markUsed :: rest else m :: markFirst name rest

def hits (u : Use) (d : Declaration) : Bool :=
  u.concerns d && d.methods.any fun m => m.name = u.member

def markIn (u : Use) (d : Declaration) : Declaration :=
  if u.concerns d then { d with methods := markFirst u.member d.methods } else d

end Use

namespace Registry

def mark (state : Registry × Nat) (u : Use) : Registry × Nat :=
  (state.1.map fun e => (e.1, u.markIn e.2),
   state.2 + state.1.countP fun e => u.hits e.2)

def flush (r : Registry) (uses : List Use) : Registry × Nat :=
  uses.foldl mark (r, 0)

end Registry

end DesignLint
