import DesignLint.Declaration.Basic
import DesignLint.Text.Surrogate

namespace DesignLint

abbrev Inheritance := Assoc String

namespace Inheritance

def record (g : Inheritance) (child : String) (parent : Option String) : Inheritance :=
  if child = "" then g
  else match parent with
    | some p => if p = "" then Assoc.erase child g else Assoc.put child p (Assoc.erase child g)
    | none => Assoc.erase child g

def parentOf (g : Inheritance) (child : String) : Option String :=
  Assoc.get? child g

def climb (g : Inheritance) (seen : List String) (child : String) : List String :=
  match _h : Assoc.get? child g with
  | none => []
  | some p => if p ∈ seen then [] else p :: climb (Assoc.erase child g) (p :: seen) p
termination_by g.length
decreasing_by exact Assoc.length_erase_lt _h

def ancestors (g : Inheritance) (child : String) : List String :=
  climb g [child] child

def subclasses (g : Inheritance) (parent : String) : List String :=
  ((g.filter fun e => e.2 = parent).map Prod.fst).mergeSort Text.precedes

def firstDeclaring (r : Registry) (method : String) : List String → Option (Declaration × Method)
  | [] => none
  | c :: rest =>
    match r.get? c with
    | none => none
    | some d =>
      match d.method? method with
      | some m => some (d, m)
      | none => firstDeclaring r method rest

def findInherited (g : Inheritance) (r : Registry) (child method : String) :
    Option (Declaration × Method) :=
  firstDeclaring r method (g.ancestors child)

def isInherited (g : Inheritance) (r : Registry) (child method : String) : Bool :=
  (g.findInherited r child method).isSome

end Inheritance

end DesignLint
