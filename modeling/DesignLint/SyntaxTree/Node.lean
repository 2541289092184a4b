import DesignLint.SyntaxTree.Kind
import DesignLint.Tree.Spot

namespace DesignLint

-- Lines count from one, columns from zero in bytes.
structure Position where
  line : Nat
  column : Nat
deriving DecidableEq, Repr

inductive Binding where
  | default
  | named
  | namespace
deriving DecidableEq, Repr

namespace Binding

def text : Binding → String
  | default => "default"
  | named => "named"
  | .namespace => "namespace"

end Binding

-- `address` leads from the import to the node that names it.
structure Specifier where
  imported : String
  «local» : String
  binding : Binding
  typeOnly : Bool
  address : List Nat
deriving DecidableEq, Repr

inductive ImportForm where
  | statement
  | require
deriving DecidableEq, Repr

namespace ImportForm

def text : ImportForm → String
  | statement => "import"
  | require => "require"

end ImportForm

structure Import where
  module : String
  form : ImportForm
  typeOnly : Bool
  specifiers : List Specifier
deriving DecidableEq, Repr

inductive Detail where
  | plain
  | classLike (superclass : Option String) («implements» : List String) (isAbstract : Bool)
  | callable (returnType : Option String)
  | case (isDefault : Bool)
  | importing (i : Import)
deriving DecidableEq, Repr

-- A link leads from the node by child positions.
structure Node where
  kind : Kind
  type : String
  start : Nat
  stop : Nat
  first : Position
  last : Position
  text : String
  name : Option String
  operator : Option String
  isStatement : Bool
  links : List (Role × List Nat)
  detail : Detail
deriving DecidableEq, Repr

abbrev SyntaxTree := Tree Node

namespace SyntaxTree

def kind (t : SyntaxTree) : Kind := t.label.kind

def text (t : SyntaxTree) : String := t.label.text

def name (t : SyntaxTree) : Option String := t.label.name

def linkAddress (t : SyntaxTree) (role : Role) : Option (List Nat) :=
  (t.label.links.lookup role).filter (· != [])

def link (t : SyntaxTree) (role : Role) : Option SyntaxTree :=
  (t.linkAddress role).bind t.follow

theorem size_link_lt {t u : SyntaxTree} {role : Role} (h : t.link role = some u) :
    u.size < t.size := by
  obtain ⟨path, hp, hf⟩ := Option.bind_eq_some_iff.mp h
  cases path with
  | nil => simp [linkAddress, Option.filter_eq_some_iff] at hp
  | cons i rest => exact Tree.size_follow_cons_lt hf

def properName (t : SyntaxTree) : Option String :=
  t.name.filter (· != "")

def superclass (t : SyntaxTree) : Option String :=
  match t.label.detail with
  | .classLike superclass _ _ => superclass
  | _ => none

def «implements» (t : SyntaxTree) : List String :=
  match t.label.detail with
  | .classLike _ implements _ => implements
  | _ => []

def returnType (t : SyntaxTree) : Option String :=
  match t.label.detail with
  | .callable returnType => returnType
  | _ => none

def isDefaultCase (t : SyntaxTree) : Bool :=
  match t.label.detail with
  | .case isDefault => isDefault
  | _ => false

def import? (t : SyntaxTree) : Option Import :=
  match t.label.detail with
  | .importing i => some i
  | _ => none

end SyntaxTree

abbrev Site := Spot Node

namespace Site

def code (s : Site) : SyntaxTree := s.tree

def kind (s : Site) : Kind := s.label.kind

def link (s : Site) (role : Role) : Option Site :=
  (s.code.linkAddress role).bind s.follow

def isLinkOf (s : Site) (parent : Site) (role : Role) : Bool :=
  (parent.code.linkAddress role).any fun path => path.reverse ++ parent.address = s.address

def enclosing (s : Site) (test : Kind → Bool) : Option Site :=
  s.ancestors.find? fun a => test a.label.kind

def enclosingScope (s : Site) : Option Site :=
  s.enclosing Kind.opensScope

end Site

end DesignLint
