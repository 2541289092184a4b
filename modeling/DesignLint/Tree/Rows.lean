import DesignLint.Tree.Basic

namespace DesignLint.Tree

variable {α : Type}

-- From the last row to the first: for each row the children known so far, and the tree of the last
-- row met that has no parent.
structure Assembly (α : Type) where
  children : Array (List (Tree α))
  root : Option (Tree α) := none

def Assembly.add (row : (Option Nat × α) × Nat) (a : Assembly α) : Assembly α :=
  let t := node row.1.2 (a.children.getD row.2 [])
  match row.1.1 with
  | none => { a with root := some t }
  | some parent => { a with children := a.children.modify parent (t :: ·) }

def ofRows (rows : List (Option Nat × α)) : Option (Tree α) :=
  (rows.zipIdx.foldr Assembly.add { children := Array.replicate rows.length [] }).root

end DesignLint.Tree
