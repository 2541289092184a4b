import DesignLint.Tree.Basic

namespace DesignLint

-- `above` holds the subtrees around it, the nearest first; `address` holds positions among
-- siblings, its own first and then that of each ancestor but the root.
structure Spot (α : Type) where
  tree : Tree α
  above : List (Tree α)
  address : List Nat

namespace Spot

variable {α : Type}

def label (s : Spot α) : α :=
  s.tree.label

def root (t : Tree α) : Spot α :=
  ⟨t, [], []⟩

def parent? (s : Spot α) : Option (Spot α) :=
  match s.above with
  | [] => none
  | p :: rest => some ⟨p, rest, s.address.tail⟩

def ancestors (s : Spot α) : List (Spot α) :=
  go s.above s.address.tail
where
  go : List (Tree α) → List Nat → List (Spot α)
  | [], _ => []
  | p :: rest, address => ⟨p, rest, address⟩ :: go rest address.tail

def child? (s : Spot α) (i : Nat) : Option (Spot α) :=
  s.tree.children[i]?.map fun c => ⟨c, s.tree :: s.above, i :: s.address⟩

def children (s : Spot α) : List (Spot α) :=
  s.tree.children.mapIdx fun i c => ⟨c, s.tree :: s.above, i :: s.address⟩

def follow : Spot α → List Nat → Option (Spot α)
  | s, [] => some s
  | s, i :: rest => (s.child? i).bind (·.follow rest)

theorem tree_child? (s : Spot α) (i : Nat) :
    (s.child? i).map (·.tree) = s.tree.children[i]? := by
  simp [child?, Function.comp_def]

end Spot

namespace Tree

variable {α : Type}

mutual
def locate (above : List (Tree α)) (address : List Nat) : Tree α → Tree (Spot α)
  | node a cs => node ⟨node a cs, above, address⟩ (locateAll (node a cs :: above) address 0 cs)

def locateAll (above : List (Tree α)) (address : List Nat) (i : Nat) :
    List (Tree α) → List (Tree (Spot α))
  | [] => []
  | c :: cs => locate above (i :: address) c :: locateAll above address (i + 1) cs
end

def spots (t : Tree α) : Tree (Spot α) :=
  locate [] [] t

end Tree

end DesignLint
