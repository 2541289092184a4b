import DesignLint.SyntaxTree.Node

namespace DesignLint

structure SiteIndex where
  inOrder : List Site := []
  byKind : List (Kind × List Site) := []

namespace SiteIndex

def addTo (s : Site) : List (Kind × List Site) → List (Kind × List Site)
  | [] => [(s.kind, [s])]
  | (k, sites) :: rest =>
    if k = s.kind then (k, sites ++ [s]) :: rest else (k, sites) :: addTo s rest

def add (i : SiteIndex) (s : Site) : SiteIndex :=
  ⟨i.inOrder ++ [s], addTo s i.byKind⟩

def ofKind (i : SiteIndex) (kind : Kind) : List Site :=
  (i.byKind.lookup kind).getD []

def ofKinds (i : SiteIndex) (kinds : List Kind) : List Site :=
  match kinds with
  | [kind] => i.ofKind kind
  | _ => i.inOrder.filter fun s => kinds.contains s.label.kind

end SiteIndex

end DesignLint
