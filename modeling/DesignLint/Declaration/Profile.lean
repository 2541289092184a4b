import DesignLint.Declaration.Basic
import DesignLint.Metric.Branch
import DesignLint.Metric.Callable

namespace DesignLint

def anonymousClass : String := "AnonymousClass"

namespace Method

def isNullReturn (t : SyntaxTree) : Bool :=
  t.kind = .returning && t.children.head?.any fun c => c.label.text = "null"

def profile (limit : Int) (name : String) (site : Site) (function : SyntaxTree)
    (form : MethodForm) : Method :=
  let body := if form = .signature then [] else function.bodyNodes limit
  { name
    site
    capability := .ofName name
    parameters := function.parameterCount
    complexity := if form = .signature then 1 else function.complexity limit
    thrown := (body.filter fun t => t.kind = .throwing).map SyntaxTree.thrownType
    returnsNull := body.any isNullReturn
    guards := body.countP fun t => t.kind = .branch && t.isGuard
    form
    returnType := function.returnType }

def plainName? (t : SyntaxTree) : Option String :=
  t.properName.filter fun n => !Text.startsWith n "["

def ofMember? (limit : Int) (form : MethodForm) (member : Site) : Option Method :=
  (plainName? member.code).map fun name =>
    let function :=
      if form = .arrowProperty then (member.code.link .value).getD member.code else member.code
    profile limit name member function form

def ofClassMember? (limit : Int) (member : Site) : Option Method :=
  match member.kind with
  | .method => ofMember? limit .method member
  | .methodSignature => ofMember? limit .signature member
  | .property =>
    if (member.code.link .value).any (·.kind = .arrow) then ofMember? limit .arrowProperty member
    else none
  | _ => none

def isObjectMethod (member : Site) : Bool :=
  match member.kind with
  | .pair =>
    (member.code.link .value).any fun v => v.kind = .function || v.kind = .arrow
  | .method => true
  | _ => false

def ofObjectMember? (limit : Int) (member : Site) : Option Method :=
  if member.kind = .pair then
    match (member.code.link .key).map SyntaxTree.text, member.code.link .value with
    | some key, some value =>
      if key = "" then none else some (profile limit key member value .objectMethod)
    | _, _ => none
  else ofMember? limit .objectMethod member

end Method

namespace Declaration

def ofClass (limit : Int) (file : String) (s : Site) : Declaration :=
  let name := s.code.properName.getD anonymousClass
  let isInterface := s.kind = .interfaceDecl
  let members : List Site := ((s.link .body).map Spot.children).getD []
  { name
    site := s
    methods := members.filterMap (Method.ofClassMember? limit)
    superclass := s.code.superclass
    interfaces := s.code.implements
    isInterface := isInterface || isInterfaceName name
    origin := if isInterface then .interfaceDecl else .classDecl
    file }

def objectMethods (s : Site) : List Site :=
  (Spot.children s).filter Method.isObjectMethod

def isObjectInterface (s : Site) : Bool :=
  (match s.parent? with
    | some (p : Site) => p.kind = .declarator || p.kind = .assignment || p.kind = .pair
    | none => false) &&
  decide (3 ≤ (objectMethods s).length)

def objectContext (s : Site) : String :=
  match s.parent? with
  | none => "Object"
  | some (p : Site) =>
    match p.kind with
    | .declarator => p.code.properName.getD "Object"
    | .pair => ((p.code.link .key).map SyntaxTree.text).getD "Object"
    | _ => "Object"

def objectName (context : String) (number : Nat) : String :=
  context ++ "_" ++ String.ofList (Nat.toDigits 10 number)

def ofObject (limit : Int) (file : String) (number : Nat) (s : Site) : Declaration where
  name := objectName (objectContext s) number
  site := s
  methods := (objectMethods s).filterMap (Method.ofObjectMember? limit)
  isInterface := true
  origin := .object
  file := file

end Declaration

end DesignLint
