import DesignLint.Tree.Spot

namespace DesignLint.Tree

variable {α β : Type}

mutual
def map (f : α → β) : Tree α → Tree β
  | node a cs => node (f a) (mapAll f cs)

def mapAll (f : α → β) : List (Tree α) → List (Tree β)
  | [] => []
  | c :: cs => map f c :: mapAll f cs
end

theorem mapAll_append (f : α → β) (a b : List (Tree α)) :
    mapAll f (a ++ b) = mapAll f a ++ mapAll f b := by
  induction a with
  | nil => rfl
  | cons c cs ih => simp [mapAll, ih]

def forestPreorder (cs : List (Tree α)) : List α :=
  (forestSubtrees cs).map label

@[simp] theorem preorder_node (a : α) (cs : List (Tree α)) :
    (node a cs).preorder = a :: forestPreorder cs := by
  simp [preorder, subtrees, label, forestPreorder]

@[simp] theorem forestPreorder_nil : forestPreorder ([] : List (Tree α)) = [] := rfl

@[simp] theorem forestPreorder_cons (c : Tree α) (cs : List (Tree α)) :
    forestPreorder (c :: cs) = c.preorder ++ forestPreorder cs := by
  simp [forestPreorder, forestSubtrees, preorder]

mutual
theorem preorder_map (f : α → β) : ∀ t : Tree α, (t.map f).preorder = t.preorder.map f
  | node a cs => by simp [map, forestPreorder_mapAll f cs]

theorem forestPreorder_mapAll (f : α → β) :
    ∀ cs : List (Tree α), forestPreorder (mapAll f cs) = (forestPreorder cs).map f
  | [] => rfl
  | c :: cs => by simp [mapAll, preorder_map f c, forestPreorder_mapAll f cs]
end

mutual
theorem map_congr {f g : α → β} :
    ∀ t : Tree α, (∀ a ∈ t.preorder, f a = g a) → t.map f = t.map g
  | node a cs => by
    intro h
    rw [preorder_node, List.forall_mem_cons] at h
    rw [map, map, h.1, mapAll_congr cs h.2]

theorem mapAll_congr {f g : α → β} :
    ∀ cs : List (Tree α), (∀ a ∈ forestPreorder cs, f a = g a) → mapAll f cs = mapAll g cs
  | [] => fun _ => rfl
  | c :: cs => by
    intro h
    rw [forestPreorder_cons, List.forall_mem_append] at h
    rw [mapAll, mapAll, map_congr c h.1, mapAll_congr cs h.2]
end

theorem map_eq_map_iff {f g : α → β} (t : Tree α) :
    t.map f = t.map g ↔ ∀ a ∈ t.preorder, f a = g a := by
  refine ⟨fun h => ?_, map_congr t⟩
  have hp := congrArg preorder h
  rwa [preorder_map, preorder_map, List.map_inj_left] at hp

mutual
theorem preorder_locate (above : List (Tree α)) (address : List Nat) :
    ∀ t : Tree α, (locate above address t).preorder.map Spot.label = t.preorder
  | node a cs => by
    simp only [locate, preorder_node, List.map_cons, forestPreorder_locateAll, Spot.label, label]

theorem forestPreorder_locateAll (above : List (Tree α)) (address : List Nat) (i : Nat) :
    ∀ cs : List (Tree α),
      (forestPreorder (locateAll above address i cs)).map Spot.label = forestPreorder cs
  | [] => rfl
  | c :: cs => by
    simp only [locateAll, forestPreorder_cons, List.map_append, preorder_locate,
      forestPreorder_locateAll]
end

theorem preorder_spots (t : Tree α) : t.spots.preorder.map Spot.label = t.preorder :=
  preorder_locate [] [] t

mutual
theorem above_of_mem_locate (above : List (Tree α)) (address : List Nat) :
    ∀ (t : Tree α), ∀ s ∈ (locate above address t).preorder,
      s = ⟨t, above, address⟩ ∨ ∃ path, s.above = path ++ t :: above
  | node a cs => by
    intro s hs
    simp only [locate, preorder_node, List.mem_cons] at hs
    rcases hs with rfl | hs
    · exact .inl rfl
    · exact .inr (above_of_mem_locateAll (node a cs :: above) address 0 cs s hs)

theorem above_of_mem_locateAll (above : List (Tree α)) (address : List Nat) (i : Nat) :
    ∀ (cs : List (Tree α)), ∀ s ∈ forestPreorder (locateAll above address i cs),
      ∃ path, s.above = path ++ above
  | [] => by simp [locateAll]
  | c :: cs => by
    intro s hs
    simp only [locateAll, forestPreorder_cons, List.mem_append] at hs
    rcases hs with hs | hs
    · rcases above_of_mem_locate above (i :: address) c s hs with rfl | ⟨path, hp⟩
      · exact ⟨[], rfl⟩
      · exact ⟨path ++ [c], by simpa using hp⟩
    · exact above_of_mem_locateAll above address (i + 1) cs s hs
end

mutual
theorem address_of_mem_locate (above : List (Tree α)) (address : List Nat) :
    ∀ (t : Tree α), ∀ s ∈ (locate above address t).preorder, ∃ path, s.address = path ++ address
  | node a cs => by
    intro s hs
    simp only [locate, preorder_node, List.mem_cons] at hs
    rcases hs with rfl | hs
    · exact ⟨[], rfl⟩
    · obtain ⟨path, j, -, h⟩ := address_of_mem_locateAll (node a cs :: above) address 0 cs s hs
      exact ⟨path ++ [j], by simpa using h⟩

theorem address_of_mem_locateAll (above : List (Tree α)) (address : List Nat) (i : Nat) :
    ∀ (cs : List (Tree α)), ∀ s ∈ forestPreorder (locateAll above address i cs),
      ∃ path j, i ≤ j ∧ s.address = path ++ j :: address
  | [] => by simp [locateAll]
  | c :: cs => by
    intro s hs
    simp only [locateAll, forestPreorder_cons, List.mem_append] at hs
    rcases hs with hs | hs
    · obtain ⟨path, h⟩ := address_of_mem_locate above (i :: address) c s hs
      exact ⟨path, i, Nat.le_refl i, h⟩
    · obtain ⟨path, j, hj, h⟩ := address_of_mem_locateAll above address (i + 1) cs s hs
      exact ⟨path, j, by omega, h⟩
end

mutual
theorem nodup_address_locate (above : List (Tree α)) (address : List Nat) :
    ∀ t : Tree α, ((locate above address t).preorder.map Spot.address).Nodup
  | node a cs => by
    simp only [locate, preorder_node, List.map_cons, List.nodup_cons]
    refine ⟨?_, nodup_address_locateAll _ address 0 cs⟩
    intro hm
    obtain ⟨s, hs, he⟩ := List.mem_map.mp hm
    obtain ⟨path, j, -, h⟩ := address_of_mem_locateAll _ address 0 cs s hs
    have := congrArg List.length (he.symm.trans h)
    simp at this
    omega

theorem nodup_address_locateAll (above : List (Tree α)) (address : List Nat) (i : Nat) :
    ∀ cs : List (Tree α), ((forestPreorder (locateAll above address i cs)).map Spot.address).Nodup
  | [] => by simp [locateAll]
  | c :: cs => by
    simp only [locateAll, forestPreorder_cons, List.map_append, List.nodup_append]
    refine ⟨nodup_address_locate above (i :: address) c,
      nodup_address_locateAll above address (i + 1) cs, ?_⟩
    intro x hx y hy hxy
    obtain ⟨s, hs, rfl⟩ := List.mem_map.mp hx
    obtain ⟨u, hu, rfl⟩ := List.mem_map.mp hy
    -- both addresses end in the common address; the position before it tells the two children apart
    obtain ⟨p, hp⟩ := address_of_mem_locate above (i :: address) c s hs
    obtain ⟨q, j, hj, hq⟩ := address_of_mem_locateAll above address (i + 1) cs u hu
    have h : p ++ i :: address = q ++ j :: address := hp.symm.trans (hxy.trans hq)
    have hl : p.length = q.length := by
      have := congrArg List.length h
      simp at this
      omega
    have hij := (List.append_inj h hl).2
    simp at hij
    omega
end

theorem nodup_address_spots (t : Tree α) : (t.spots.preorder.map Spot.address).Nodup :=
  nodup_address_locate [] [] t

mutual
def edges (parent : Option α) : Tree α → List (Option α × α)
  | node a cs => (parent, a) :: forestEdges (some a) cs

def forestEdges (parent : Option α) : List (Tree α) → List (Option α × α)
  | [] => []
  | c :: cs => edges parent c ++ forestEdges parent cs
end

theorem forestEdges_append (parent : Option α) (a b : List (Tree α)) :
    forestEdges parent (a ++ b) = forestEdges parent a ++ forestEdges parent b := by
  induction a with
  | nil => rfl
  | cons c cs ih => simp [forestEdges, ih]

mutual
theorem edges_locate (above : List (Tree α)) (address : List Nat) :
    ∀ t : Tree α, (locate above address t).preorder.map
      (fun s => (s.parent?.map Spot.label, s.label)) = edges (above.head?.map label) t
  | node a cs => by
    simp only [locate, preorder_node, List.map_cons, edges_locateAll, edges]
    cases above <;> simp [Spot.parent?, Spot.label, label]

theorem edges_locateAll (above : List (Tree α)) (address : List Nat) (i : Nat) :
    ∀ cs : List (Tree α), (forestPreorder (locateAll above address i cs)).map
      (fun s => (s.parent?.map Spot.label, s.label)) = forestEdges (above.head?.map label) cs
  | [] => rfl
  | c :: cs => by
    simp only [locateAll, forestPreorder_cons, List.map_append, edges_locate, edges_locateAll,
      forestEdges]
end

theorem edges_spots (t : Tree α) :
    t.spots.preorder.map (fun s => (s.parent?.map Spot.label, s.label)) = t.edges none :=
  edges_locate [] [] t

theorem head_forestEdges_append {parent q : Option α} {x : α} {cs : List (Tree α)}
    {rest after : List (Option α × α)} (h : forestEdges parent cs ++ rest = (q, x) :: after) :
    q = parent ∨ ∃ a l, rest = (q, a) :: l := by
  cases cs with
  | nil => exact .inr ⟨x, after, h⟩
  | cons c cs =>
    obtain ⟨a, ks⟩ := c
    simp only [forestEdges, edges, List.cons_append, List.cons.injEq, Prod.mk.injEq] at h
    exact .inl h.1.1.symm

-- What follows a forest belongs neither to its parent nor to any of its nodes.
def Follows (parent : Option α) (cs : List (Tree α)) (rest : List (Option α × α)) : Prop :=
  ∀ q x after, rest = (q, x) :: after → q ≠ parent ∧ ∀ a ∈ forestPreorder cs, q ≠ some a

theorem forest_eq_of_edges {parent : Option α} :
    ∀ {cs ds : List (Tree α)} {rest after : List (Option α × α)},
      (forestPreorder cs).Nodup → (∀ a ∈ forestPreorder cs, parent ≠ some a) →
      Follows parent cs rest → Follows parent cs after →
      forestEdges parent cs ++ rest = forestEdges parent ds ++ after → cs = ds ∧ rest = after
  | [], [], _, _, _, _, _, _, h => ⟨rfl, h⟩
  | [], node a ks :: ds, rest, after, _, _, hr, _, h => by
    simp only [forestEdges, edges, List.nil_append, List.cons_append] at h
    exact absurd rfl (hr _ _ _ h).1
  | node a ks :: cs, [], rest, after, _, _, _, ha, h => by
    simp only [forestEdges, edges, List.nil_append, List.cons_append] at h
    exact absurd rfl (ha _ _ _ h.symm).1
  | node a ks :: cs, node b ls :: ds, rest, after, hn, hp, hr, ha, h => by
    simp only [forestEdges, edges, List.cons_append, List.append_assoc, List.cons.injEq,
      Prod.mk.injEq, true_and] at h
    obtain ⟨rfl, h⟩ := h
    simp only [forestPreorder_cons, preorder_node, List.cons_append, List.nodup_cons,
      List.nodup_append, List.mem_append, not_or] at hn
    obtain ⟨⟨hak, hac⟩, hks, hcs, hd⟩ := hn
    have follows {es : List (Tree α)} {next : List (Option α × α)}
        (hnext : Follows parent (node a ks :: cs) next) :
        Follows (some a) ks (forestEdges parent es ++ next) := by
      intro q x l hl
      rcases head_forestEdges_append hl with rfl | ⟨y, m, hm⟩
      · exact ⟨hp a (by simp), fun k hk => hp k (by simp [hk])⟩
      · have hq := (hnext q y m hm).2
        exact ⟨hq a (by simp), fun k hk => hq k (by simp [hk])⟩
    have own : ∀ k ∈ forestPreorder ks, some a ≠ some k := by
      rintro k hk ⟨⟩
      exact hak hk
    obtain ⟨rfl, hrest⟩ := forest_eq_of_edges hks own (follows hr) (follows ha) h
    have weaken {next : List (Option α × α)} (hnext : Follows parent (node a ks :: cs) next) :
        Follows parent cs next := fun q x l hl =>
      ⟨(hnext q x l hl).1, fun k hk => (hnext q x l hl).2 k (by simp [hk])⟩
    obtain ⟨rfl, rfl⟩ := forest_eq_of_edges hcs (fun k hk => hp k (by simp [hk]))
      (weaken hr) (weaken ha) hrest
    exact ⟨rfl, rfl⟩

theorem eq_of_edges_eq {t u : Tree α} (hn : t.preorder.Nodup)
    (h : t.edges none = u.edges none) : t = u := by
  have hf : Follows none [t] [] := fun q x l hl => by cases hl
  have he : forestEdges none [t] ++ [] = forestEdges none [u] ++ [] := by
    simpa [forestEdges] using h
  simpa using (forest_eq_of_edges (by simpa using hn) (by simp) hf hf he).1

mutual
theorem preorder_subset_of_mem_locate (above : List (Tree α)) (address : List Nat) :
    ∀ t : Tree α, ∀ s ∈ (locate above address t).preorder, s.tree.preorder ⊆ t.preorder
  | node a cs => by
    intro s hs
    simp only [locate, preorder_node, List.mem_cons] at hs
    rcases hs with rfl | hs
    · exact List.Subset.refl _
    · rw [preorder_node]
      exact List.subset_cons_of_subset a
        (preorder_subset_of_mem_locateAll (node a cs :: above) address 0 cs s hs)

theorem preorder_subset_of_mem_locateAll (above : List (Tree α)) (address : List Nat) (i : Nat) :
    ∀ cs : List (Tree α), ∀ s ∈ forestPreorder (locateAll above address i cs),
      s.tree.preorder ⊆ forestPreorder cs
  | [] => by simp [locateAll]
  | c :: cs => by
    intro s hs
    simp only [locateAll, forestPreorder_cons, List.mem_append] at hs
    rw [forestPreorder_cons]
    rcases hs with hs | hs
    · exact List.subset_append_of_subset_left _
        (preorder_subset_of_mem_locate above (i :: address) c s hs)
    · exact List.subset_append_of_subset_right _
        (preorder_subset_of_mem_locateAll above address (i + 1) cs s hs)
end

theorem preorder_subset_forestPreorder {c : Tree α} {cs : List (Tree α)} (h : c ∈ cs) :
    c.preorder ⊆ forestPreorder cs := by
  induction cs with
  | nil => cases h
  | cons d ds ih =>
    rw [forestPreorder_cons]
    rcases List.mem_cons.mp h with rfl | h
    · exact List.subset_append_left _ _
    · exact List.subset_append_of_subset_right _ (ih h)

theorem preorder_subset_of_mem_children {c t : Tree α} (h : c ∈ t.children) :
    c.preorder ⊆ t.preorder := by
  obtain ⟨a, cs⟩ := t
  rw [preorder_node]
  exact List.subset_cons_of_subset a (preorder_subset_forestPreorder h)

theorem preorder_subset_of_follow {s u : Spot α} {path : List Nat} (h : s.follow path = some u) :
    u.tree.preorder ⊆ s.tree.preorder := by
  induction path generalizing s with
  | nil =>
    obtain rfl := Option.some.inj h
    exact List.Subset.refl _
  | cons i rest ih =>
    obtain ⟨c, hc, hrest⟩ := Option.bind_eq_some_iff.mp h
    have htree : s.tree.children[i]? = some c.tree := by
      rw [← Spot.tree_child?, hc]
      rfl
    exact List.Subset.trans (ih hrest)
      (preorder_subset_of_mem_children (List.mem_of_getElem? htree))

end DesignLint.Tree
