import DesignLint.SyntaxTree.Node
import DesignLint.Text.Blank
import DesignLint.Text.Search

namespace DesignLint

def anonymousName : String := "anonymous"

namespace Site

def functionName (s : Site) : String :=
  match s.code.properName with
  | some name => name
  | none =>
    match s.parent? with
    | none => anonymousName
    | some (p : Site) =>
      match p.kind with
      | .declarator | .property => p.code.properName.getD anonymousName
      | .pair => ((p.code.link .key).map SyntaxTree.text).getD anonymousName
      | .assignment =>
        match p.code.link .left with
        | some left => left.properName.getD left.text
        | none => anonymousName
      | _ => anonymousName

def functionLabel (s : Site) : String :=
  if s.kind = .arrow ∧ s.code.properName = none ∧ s.functionName = anonymousName then
    "(arrow function)"
  else s.functionName

end Site

namespace SyntaxTree

def parameterCount (t : SyntaxTree) : Nat :=
  match t.link .params with
  | none => 0
  | some params => if params.kind = .identifier then 1 else params.children.length

def isDecision (t : SyntaxTree) : Bool :=
  match t.kind with
  | .branch | .conditional | .loop | .handler | .function | .arrow | .method => true
  | .case => !t.isDefaultCase
  | .logical => t.label.operator = some "&&" || t.label.operator = some "||"
  | _ => false

def bodyNodes (limit : Int) (t : SyntaxTree) : List SyntaxTree :=
  match t.link .body with
  | some body => body.walk limit true
  | none => []

def complexity (limit : Int) (t : SyntaxTree) : Nat :=
  1 + (t.bodyNodes limit).countP isDecision

def isCodeLine (line : List Char) : Bool :=
  let trimmed := Text.trim line
  !trimmed.isEmpty && !(['/', '/'].isPrefixOf trimmed) && !(['/', '*'].isPrefixOf trimmed)

def codeLines (t : SyntaxTree) : Nat :=
  (Text.split '\n' t.text.toList).countP isCodeLine

def statementCount (limit : Int) (t : SyntaxTree) : Nat :=
  match t.link .body with
  | some body =>
    if body.kind = .block then (body.walk limit false).countP (·.label.isStatement) else 0
  | none => 0

end SyntaxTree

end DesignLint
