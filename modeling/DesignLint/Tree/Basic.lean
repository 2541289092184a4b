namespace DesignLint

inductive Tree (α : Type) where
  | node (label : α) (children : List (Tree α))

namespace Tree

variable {α β : Type}

def label : Tree α → α
  | node a _ => a

def children : Tree α → List (Tree α)
  | node _ cs => cs

mutual
def size : Tree α → Nat
  | node _ cs => 1 + forestSize cs

def forestSize : List (Tree α) → Nat
  | [] => 0
  | c :: cs => size c + forestSize cs
end

mutual
def height : Tree α → Nat
  | node _ cs => forestHeight cs

def forestHeight : List (Tree α) → Nat
  | [] => 0
  | c :: cs => max (height c + 1) (forestHeight cs)
end

mutual
def subtrees : Tree α → List (Tree α)
  | node a cs => node a cs :: forestSubtrees cs

def forestSubtrees : List (Tree α) → List (Tree α)
  | [] => []
  | c :: cs => subtrees c ++ forestSubtrees cs
end

def preorder (t : Tree α) : List α :=
  t.subtrees.map label

def subtreesTo : Nat → Tree α → List (Tree α)
  | 0, t => [t]
  | depth + 1, t => t :: t.children.flatMap (subtreesTo depth)

theorem size_eq (t : Tree α) : t.size = 1 + forestSize t.children := by
  cases t
  rw [size, children]

def agendaSize : List (Nat × Tree α) → Nat
  | [] => 0
  | (_, t) :: rest => t.size + agendaSize rest

theorem agendaSize_append (a b : List (Nat × Tree α)) :
    agendaSize (a ++ b) = agendaSize a + agendaSize b := by
  induction a with
  | nil => simp [agendaSize]
  | cons e rest ih => simp [agendaSize, ih, Nat.add_assoc]

theorem agendaSize_map (depth : Nat) (cs : List (Tree α)) :
    agendaSize (cs.map (depth, ·)) = forestSize cs := by
  induction cs with
  | nil => simp [agendaSize, forestSize]
  | cons c cs ih => simp [agendaSize, forestSize, ih]

theorem agendaSize_next_lt (depth : Nat) (t : Tree α) (rest : List (Nat × Tree α))
    (stops : Prop) [Decidable stops] :
    agendaSize (if stops then rest else t.children.map (depth + 1, ·) ++ rest) <
      agendaSize ((depth, t) :: rest) := by
  have ht := size_eq t
  rw [agendaSize]
  split
  · omega
  · rw [agendaSize_append, agendaSize_map]
    omega

def drain (limit : Int) : List (Nat × Tree α) → List (Nat × Tree α)
  | [] => []
  | (depth, t) :: rest =>
    (depth, t) :: drain limit
      (if limit ≤ Int.ofNat depth then rest else t.children.map (depth + 1, ·) ++ rest)
termination_by agenda => agendaSize agenda
decreasing_by exact agendaSize_next_lt depth t rest _

def walk (limit : Int) (withRoot : Bool) (t : Tree α) : List (Tree α) :=
  ((drain limit [(0, t)]).filter fun e => withRoot || 0 < e.1).map Prod.snd

theorem size_le_forestSize {c : Tree α} {cs : List (Tree α)} (h : c ∈ cs) :
    c.size ≤ forestSize cs := by
  induction cs with
  | nil => cases h
  | cons d ds ih =>
    rw [forestSize]
    rcases List.mem_cons.mp h with rfl | h
    · omega
    · have := ih h
      omega

theorem size_lt_of_mem_children {c t : Tree α} (h : c ∈ t.children) : c.size < t.size := by
  have := size_le_forestSize h
  rw [size_eq t]
  omega

def follow : Tree α → List Nat → Option (Tree α)
  | t, [] => some t
  | t, i :: rest =>
    match t.children[i]? with
    | some c => c.follow rest
    | none => none

theorem size_follow_le {t u : Tree α} {path : List Nat} (h : t.follow path = some u) :
    u.size ≤ t.size := by
  induction path generalizing t with
  | nil =>
    simp only [follow, Option.some.injEq] at h
    exact h ▸ Nat.le_refl _
  | cons i rest ih =>
    rw [follow] at h
    split at h
    · next c hc =>
      have := ih h
      have := size_lt_of_mem_children (List.mem_of_getElem? hc)
      omega
    · cases h

theorem size_follow_cons_lt {t u : Tree α} {i : Nat} {rest : List Nat}
    (h : t.follow (i :: rest) = some u) : u.size < t.size := by
  rw [follow] at h
  split at h
  · next c hc =>
    have := size_follow_le h
    have := size_lt_of_mem_children (List.mem_of_getElem? hc)
    omega
  · cases h

end Tree

end DesignLint
