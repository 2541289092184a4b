import DesignLint.Assoc
import DesignLint.Declaration.Capability
import DesignLint.SyntaxTree.Node

namespace DesignLint

inductive MethodForm where
  | method
  | arrowProperty
  | signature
  | objectMethod
deriving DecidableEq, Repr

namespace MethodForm

def text : MethodForm → String
  | method => "method"
  | arrowProperty => "arrow-property"
  | signature => "interface-signature"
  | objectMethod => "object-method"

end MethodForm

structure Method where
  name : String
  site : Site
  capability : Capability
  parameters : Nat := 0
  complexity : Nat := 1
  thrown : List (Option String) := []
  returnsNull : Bool := false
  guards : Nat := 0
  isUsed : Bool := false
  uses : Nat := 0
  form : MethodForm := .method
  returnType : Option String := none

namespace Method

def throws (m : Method) : Bool := !m.thrown.isEmpty

def markUsed (m : Method) : Method := { m with isUsed := true, uses := m.uses + 1 }

end Method

inductive Origin where
  | classDecl
  | interfaceDecl
  | object
deriving DecidableEq, Repr

namespace Origin

def text : Origin → String
  | classDecl => "class"
  | interfaceDecl => "interface"
  | object => "object"

end Origin

structure Declaration where
  name : String
  site : Site
  methods : List Method := []
  superclass : Option String := none
  interfaces : List String := []
  isInterface : Bool := false
  origin : Origin := .classDecl
  file : String := ""

namespace Declaration

def method? (d : Declaration) (name : String) : Option Method :=
  d.methods.find? fun m => m.name = name

def properSuperclass (d : Declaration) : Option String :=
  d.superclass.filter (· != "")

def kindLabel (d : Declaration) : String :=
  if d.origin = .interfaceDecl then "TypeScript interface"
  else if d.isInterface then "Interface"
  else "Class"

end Declaration

-- A name keeps its first place and its last declaration.
abbrev Registry := Assoc Declaration

namespace Registry

def register (r : Registry) (d : Declaration) : Registry := Assoc.put d.name d r

def get? (r : Registry) (name : String) : Option Declaration := Assoc.get? name r

def declarations (r : Registry) : List Declaration := r.map Prod.snd

end Registry

end DesignLint
