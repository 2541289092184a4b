import DesignLint.Proofs.Tree.Places
import DesignLint.Tree.Walker

namespace DesignLint.Tree

variable {α : Type}

theorem drain_map_snd (limit : Int) (agenda : List (Nat × Tree α)) :
    (drain limit agenda).map Prod.snd =
      agenda.flatMap fun e => subtreesTo (limit.toNat - e.1) e.2 := by
  fun_induction drain limit agenda with
  | case1 => rfl
  | case2 depth t rest ih =>
    simp only [dite_eq_ite] at ih
    rw [List.map_cons, ih, List.flatMap_cons]
    by_cases h : limit ≤ Int.ofNat depth
    · have hd : limit.toNat - depth = 0 := by
        have : limit ≤ depth := h
        omega
      rw [if_pos h, hd, subtreesTo]
      rfl
    · have hd : limit.toNat - depth = (limit.toNat - (depth + 1)) + 1 := by
        have : ¬ limit ≤ depth := h
        omega
      rw [if_neg h, hd, subtreesTo, List.flatMap_append, List.flatMap_map]
      rfl

theorem walk_eq_subtreesTo (limit : Int) (t : Tree α) :
    t.walk limit true = subtreesTo limit.toNat t := by
  have h := drain_map_snd limit [(0, t)]
  have hall : (drain limit [(0, t)]).filter (fun e => true || 0 < e.1) = drain limit [(0, t)] :=
    List.filter_eq_self.mpr fun e _ => rfl
  rw [walk, hall, h]
  simp

theorem forestSubtrees_eq_flatMap (cs : List (Tree α)) :
    forestSubtrees cs = cs.flatMap subtrees := by
  induction cs with
  | nil => rfl
  | cons c cs ih => simp [forestSubtrees, ih]

theorem subtreesTo_sublist (depth : Nat) (t : Tree α) :
    (subtreesTo depth t).Sublist t.subtrees := by
  induction depth generalizing t with
  | zero =>
    obtain ⟨a, cs⟩ := t
    simp [subtreesTo, subtrees]
  | succ depth ih =>
    obtain ⟨a, cs⟩ := t
    rw [subtreesTo, subtrees, forestSubtrees_eq_flatMap, children]
    refine List.Sublist.cons_cons _ ?_
    induction cs with
    | nil => exact .refl _
    | cons c cs ihc => exact (ih c).append ihc

def visited (limit : Int) (t : Tree α) : List (Spot α) :=
  (subtreesTo limit.toNat t.spots).map label

theorem walk_spots (limit : Int) (t : Tree α) :
    (t.spots.walk limit true).map label = t.visited limit := by
  rw [walk_eq_subtreesTo, visited]

theorem visited_sublist (limit : Int) (t : Tree α) :
    (t.visited limit).Sublist t.spots.preorder :=
  (subtreesTo_sublist _ _).map _

theorem nodup_address_visited (limit : Int) (t : Tree α) :
    ((t.visited limit).map Spot.address).Nodup :=
  (nodup_address_spots t).sublist ((visited_sublist limit t).map _)

theorem preorder_subset_of_visited {limit : Int} {t : Tree α} {s : Spot α}
    (h : s ∈ t.visited limit) : s.tree.preorder ⊆ t.preorder :=
  preorder_subset_of_mem_locate [] [] t s ((visited_sublist limit t).subset h)

theorem label_mem_of_visited {limit : Int} {t : Tree α} {s : Spot α} (h : s ∈ t.visited limit) :
    s.label ∈ t.preorder := by
  rw [← preorder_spots]
  exact List.mem_map_of_mem ((visited_sublist limit t).subset h)

end DesignLint.Tree
