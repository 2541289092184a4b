import DesignLint.Declaration.Inheritance
import DesignLint.Declaration.Profile
import DesignLint.Declaration.Usage
import DesignLint.SiteIndex
import DesignLint.Tree.Walker

namespace DesignLint

structure Gathering where
  index : SiteIndex := {}
  registry : Registry := []
  objects : Nat := 0
  declared : List Declaration := []
  inheritance : Inheritance := []
  uses : List Use := []
  marked : Nat := 0

namespace Gathering

def visit (s : Site) (g : Gathering) : Gathering :=
  { g with index := g.index.add s }

def addClass (limit : Int) (file : String) (s : Site) (g : Gathering) : Gathering :=
  let d := Declaration.ofClass limit file s
  { g with
    registry := g.registry.register d
    declared := g.declared ++ [d]
    inheritance := g.inheritance.record d.name d.superclass }

def addObject (limit : Int) (file : String) (s : Site) (g : Gathering) : Gathering :=
  if Declaration.isObjectInterface s then
    let d := Declaration.ofObject limit file (g.objects + 1) s
    { g with registry := g.registry.register d, objects := g.objects + 1 }
  else g

def addUse (u : Option Use) (g : Gathering) : Gathering :=
  { g with uses := g.uses ++ u.toList }

def close (g : Gathering) : Gathering :=
  let (registry, marked) := g.registry.flush g.uses
  { g with registry, marked, uses := [] }

def walker (limit : Int) (file : String) : Walker Site Kind Gathering :=
  let start : Walker Site Kind Gathering := {}
  ((((((start.on none visit).on
    (some .classDecl) (addClass limit file)).on
    (some .interfaceDecl) (addClass limit file)).on
    (some .object) (addObject limit file)).on
    (some .call) fun s => addUse (Use.ofCall? s.code)).on
    (some .member) fun s => addUse (Use.ofMember? s.code)).onEnd close

end Gathering

structure Context where
  path : String
  limit : Int
  gathered : Gathering
  visited : Nat

namespace Context

def collect (path : String) (limit : Int) (root : SyntaxTree) : Context :=
  let path := String.ofList (path.toList.map fun c => if c = '\\' then '/' else c)
  let (gathered, visited) :=
    (Gathering.walker limit path).run Site.kind limit root.spots {}
  ⟨path, limit, gathered, visited⟩

def isTypeScript (c : Context) : Bool :=
  [".ts", ".tsx", ".mts", ".cts"].any (Text.endsWith (Text.lowered c.path) ·)

def sites (c : Context) (kinds : List Kind) : List Site :=
  c.gathered.index.ofKinds kinds

def registry (c : Context) : Registry := c.gathered.registry

def inheritance (c : Context) : Inheritance := c.gathered.inheritance

def current (c : Context) (d : Declaration) : Declaration :=
  match c.registry.get? d.name with
  | some r => if r.site.address = d.site.address then r else d
  | none => d

-- The name may have been taken over later.
def declarationAt? (c : Context) (s : Site) : Option Declaration :=
  (c.gathered.declared.find? fun d => d.site.address = s.address).map c.current

def declarations (c : Context) : List Declaration :=
  (c.sites [.classDecl, .interfaceDecl]).filterMap c.declarationAt?

end Context

end DesignLint
