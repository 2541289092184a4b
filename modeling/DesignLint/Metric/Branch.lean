import DesignLint.SyntaxTree.Node

namespace DesignLint

namespace SyntaxTree

def isGuard (t : SyntaxTree) : Bool :=
  match t.link .test with
  | none => false
  | some test =>
    test.kind = .binary &&
      (test.label.operator.any (["==", "===", "!=", "!=="].contains ·) ||
        ((test.link .left).any (·.kind = .identifier) &&
          (test.link .right).any (·.kind = .null)))

def thrownType (t : SyntaxTree) : Option String :=
  match t.children with
  | [] => none
  | (argument : SyntaxTree) :: _ =>
    match argument.kind with
    | .construction => (argument.link .callee).map text
    | .identifier => argument.name
    | _ => none

def chainLength (t : SyntaxTree) : Nat :=
  match h : t.link .alternate with
  | none => 1
  | some alternate => if alternate.kind = .branch then 1 + alternate.chainLength else 2
termination_by t.size
decreasing_by exact size_link_lt h

end SyntaxTree

def Site.isChainRoot (s : Site) : Bool :=
  match s.parent? with
  | none => true
  | some (p : Site) => !(p.kind = .branch && s.isLinkOf p .alternate)

end DesignLint
