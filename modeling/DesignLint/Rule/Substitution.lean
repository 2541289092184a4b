import DesignLint.Config.Schema
import DesignLint.Context
import DesignLint.Diagnostic.Findings

namespace DesignLint.Substitution

structure Settings where
  overridable : List Value

def schema : Schema where
  owner := "LSPOptions"
  defaults := [("overridable_methods", Options.texts
    ["toString", "valueOf", "equals", "hashCode", "clone", "validate", "execute", "process",
     "handle", "render"])]

def Settings.ofOptions (o : Fields) : Settings :=
  ⟨Options.items o "overridable_methods"⟩

def strongerPrecondition : Message :=
  ⟨"strongerPrecondition",
    ["LSP Violation: Method '", slot "name", "' has stronger preconditions than base method in '",
     slot "base", "'"]⟩

def weakerPostcondition : Message :=
  ⟨"weakerPostcondition",
    ["LSP Violation: Method '", slot "name", "' has weaker postconditions than base method in '",
     slot "base", "'"]⟩

def newExceptionType : Message :=
  ⟨"newExceptionType",
    ["LSP Violation: Method '", slot "name", "' throws exceptions not declared in base method in '",
     slot "base", "'"]⟩

def contractViolation : Message :=
  ⟨"contractViolation",
    ["LSP Violation: Derived class '", slot "name", "' cannot substitute base class '",
     slot "base", "' due to contract violations"]⟩

def isDeclared (base : List (Option String)) (thrown : Option String) : Bool :=
  thrown.isSome && base.contains thrown

def throwsNew (override base : List (Option String)) : Bool :=
  (!override.isEmpty && base.isEmpty) || override.any fun t => !isDeclared base t

structure Base where
  name : String
  method : Option Method

def baseOf? (o : Settings) (c : Context) (d : Declaration) (m : Method) : Option Base :=
  match c.inheritance.findInherited c.registry d.name m.name with
  | some (ancestor, base) => some ⟨ancestor.name, some base⟩
  | none =>
    if o.overridable.any fun v => v.asText? = some m.name then
      some ⟨d.superclass.getD "", none⟩
    else none

def overrides (o : Settings) (c : Context) (d : Declaration) : List (Method × Base) :=
  d.methods.filterMap fun m =>
    if m.form ≠ .method ∨ m.name = "constructor" then none
    else (baseOf? o c d m).map (m, ·)

def demandsMore (m : Method) (b : Base) : Bool :=
  decide (((b.method.map (·.guards)).getD 0) < m.guards) ||
    decide (m.parameters < (b.method.map (·.parameters)).getD 0)

def promisesLess (m : Method) (b : Base) : Bool :=
  m.returnsNull && !b.method.any (·.returnsNull)

def breaksContract (m : Method) (b : Base) : Bool :=
  b.method.any fun base => throwsNew m.thrown base.thrown

def checkOverride (r : Reporter) (m : Method) (b : Base) : Findings :=
  let data : Fields := [("name", .text m.name), ("base", .text b.name)]
  .when (demandsMore m b) (r.report strongerPrecondition m.site data) ++
  .when (promisesLess m b) (r.report weakerPostcondition m.site data) ++
  .when (breaksContract m b) (r.report newExceptionType m.site data)

def checkClass (r : Reporter) (o : Settings) (c : Context) (d : Declaration) : Findings :=
  let overrides := overrides o c d
  .each (fun (m, b) => checkOverride r m b) overrides ++
  .when (overrides.any fun (m, b) => breaksContract m b)
    (r.report contractViolation d.site
      [("name", .text d.name), ("base", .text (d.superclass.getD ""))])

def check (r : Reporter) (o : Settings) (c : Context) : Findings :=
  .each (checkClass r o c)
    (c.declarations.filter fun d => d.origin = .classDecl && d.properSuperclass.isSome)

end DesignLint.Substitution
