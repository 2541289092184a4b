import DesignLint.Config.Schema
import DesignLint.Context
import DesignLint.Diagnostic.Findings

namespace DesignLint.Responsibility

structure Limits where
  lines : Int
  statements : Int
  complexity : Int
  methods : Int
deriving DecidableEq, Repr

def schema : Schema where
  owner := "SRPOptions"
  defaults := [("max_lines", .int 50), ("max_statements", .int 10), ("max_complexity", .int 10),
    ("max_methods", .int 5)]

def Limits.ofOptions (o : Fields) : Limits :=
  ⟨Options.number o "max_lines", Options.number o "max_statements",
   Options.number o "max_complexity", Options.number o "max_methods"⟩

def tooManyLines : Message :=
  ⟨"tooManyLines",
    ["Function '", slot "name", "' exceeds max line count ", slot "count", ". Limit: ", slot "max"]⟩

def tooManyStatements : Message :=
  ⟨"tooManyStatements",
    ["Function '", slot "name", "' has too many statements ", slot "count", ". Limit: ",
     slot "max"]⟩

def tooComplex : Message :=
  ⟨"tooComplex",
    ["Function '", slot "name", "' is too complex ", slot "complexity", ". Max complexity: ",
     slot "max"]⟩

def tooManyMethods : Message :=
  ⟨"tooManyMethods",
    ["Class '", slot "name", "' has too many methods ", slot "count", ". Maximum allowed is ",
     slot "max", "."]⟩

def exceeds (r : Reporter) (m : Message) (s : Site) (name key : String) (measured : Nat)
    (limit : Int) : Findings :=
  .when (limit < Int.ofNat measured)
    (r.report m s [("name", .text name), (key, .int (Int.ofNat measured)), ("max", .int limit)])

def checkFunction (r : Reporter) (limits : Limits) (depth : Int) (s : Site) : Findings :=
  let name := s.functionLabel
  exceeds r tooManyLines s name "count" s.code.codeLines limits.lines ++
  exceeds r tooManyStatements s name "count" (s.code.statementCount depth) limits.statements ++
  exceeds r tooComplex s name "complexity" (s.code.complexity depth) limits.complexity

def checkClass (r : Reporter) (limits : Limits) (s : Site) : Findings :=
  match s.code.link .body with
  | none => .none
  | some body =>
    let methods := body.children.countP fun m => m.label.kind = .method
    exceeds r tooManyMethods s (s.code.properName.getD anonymousClass) "count" methods
      limits.methods

def check (r : Reporter) (limits : Limits) (c : Context) : Findings :=
  .each (fun s =>
    if Site.kind s = .classDecl then checkClass r limits s
    else checkFunction r limits c.limit s)
    (c.sites [.function, .arrow, .method, .classDecl])

end DesignLint.Responsibility
