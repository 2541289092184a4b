import DesignLint.Proofs.Tree.Walk

namespace DesignLint

namespace Spot

variable {α β : Type} {s u p : Spot α} {i : Nat} {path : List Nat}

theorem child?_eq_some_iff :
    s.child? i = some u ↔
      ∃ c, s.tree.children[i]? = some c ∧ u = ⟨c, s.tree :: s.above, i :: s.address⟩ := by
  rw [child?, Option.map_eq_some_iff]
  simp only [eq_comm]

theorem parent?_of_child? (h : s.child? i = some u) : u.parent? = some s := by
  obtain ⟨c, -, rfl⟩ := child?_eq_some_iff.mp h
  rfl

theorem address_of_child? (h : s.child? i = some u) : u.address = i :: s.address := by
  obtain ⟨c, -, rfl⟩ := child?_eq_some_iff.mp h
  rfl

theorem ancestors_of_parent? (h : s.parent? = some p) : s.ancestors = p :: p.ancestors := by
  obtain ⟨tree, above, address⟩ := s
  cases above with
  | nil => cases h
  | cons q rest =>
    obtain rfl := Option.some.inj h
    rfl

theorem ancestors_of_child? (h : s.child? i = some u) : u.ancestors = s :: s.ancestors :=
  ancestors_of_parent? (parent?_of_child? h)

theorem exists_ancestors_of_follow_cons (h : s.follow (i :: path) = some u) :
    ∃ between, u.ancestors = between ++ s :: s.ancestors := by
  induction path generalizing s i with
  | nil =>
    obtain ⟨c, hc, hrest⟩ := Option.bind_eq_some_iff.mp h
    obtain rfl := Option.some.inj hrest
    exact ⟨[], ancestors_of_child? hc⟩
  | cons j rest ih =>
    obtain ⟨c, hc, hrest⟩ := Option.bind_eq_some_iff.mp h
    obtain ⟨between, hbetween⟩ := ih hrest
    exact ⟨between ++ [c], by rw [hbetween, ancestors_of_child? hc]; simp⟩

theorem follow_append (s : Spot α) (a b : List Nat) :
    s.follow (a ++ b) = (s.follow a).bind (·.follow b) := by
  induction a generalizing s with
  | nil => rfl
  | cons i rest ih =>
    rw [List.cons_append, follow, follow]
    cases s.child? i with
    | none => rfl
    | some c => exact ih c

theorem follow_singleton (s : Spot α) (i : Nat) : s.follow [i] = s.child? i := by
  cases h : s.child? i <;> simp [follow, h]

theorem address_of_follow (h : s.follow path = some u) : u.address = path.reverse ++ s.address := by
  induction path generalizing s with
  | nil =>
    obtain rfl := Option.some.inj h
    rfl
  | cons i rest ih =>
    obtain ⟨c, hc, hrest⟩ := Option.bind_eq_some_iff.mp h
    rw [ih hrest, address_of_child? hc]
    simp

theorem tree_follow (s : Spot α) (path : List Nat) :
    (s.follow path).map (·.tree) = s.tree.follow path := by
  induction path generalizing s with
  | nil => rfl
  | cons i rest ih =>
    rw [follow, Tree.follow, ← tree_child?]
    cases s.child? i with
    | none => rfl
    | some c => exact ih c

theorem find?_children_eq_some_iff (test : Tree α → Bool) {c : Spot α} :
    s.children.find? (fun d => test d.tree) = some c ↔
      ∃ before d after, s.tree.children = before ++ d :: after ∧ test d = true ∧
        (∀ b ∈ before, test b = false) ∧
        c = ⟨d, s.tree :: s.above, before.length :: s.address⟩ := by
  rw [List.find?_eq_some_iff_append]
  constructor
  · rintro ⟨hc, front, back, hsplit, hfront⟩
    obtain ⟨before, rest, hcs, rfl, hrest⟩ := List.mapIdx_eq_append_iff.mp hsplit
    obtain ⟨d, after, rfl, rfl, -⟩ := List.mapIdx_eq_cons_iff.mp hrest
    refine ⟨before, d, after, hcs, hc, fun b hb => ?_, by simp⟩
    obtain ⟨i, hi, rfl⟩ := List.getElem_of_mem hb
    simpa using hfront _ (List.mem_mapIdx.mpr ⟨i, hi, rfl⟩)
  · rintro ⟨before, d, after, hcs, hd, hbefore, rfl⟩
    refine ⟨hd, before.mapIdx fun i b => ⟨b, s.tree :: s.above, i :: s.address⟩, ?_⟩
    rw [children, hcs, List.mapIdx_append, List.mapIdx_cons, Nat.zero_add]
    refine ⟨_, rfl, ?_⟩
    intro a ha
    obtain ⟨i, hi, rfl⟩ := List.mem_mapIdx.mp ha
    simpa using hbefore _ (List.getElem_mem hi)

def map (f : α → β) (s : Spot α) : Spot β :=
  ⟨s.tree.map f, Tree.mapAll f s.above, s.address⟩

@[simp] theorem label_map (f : α → β) (s : Spot α) : (s.map f).label = f s.label := by
  obtain ⟨⟨a, cs⟩, above, address⟩ := s
  rfl

end Spot

namespace Tree

variable {α β : Type}

theorem mapAll_eq_map (f : α → β) (cs : List (Tree α)) : mapAll f cs = cs.map (map f) := by
  induction cs with
  | nil => rfl
  | cons c cs ih => rw [mapAll, ih, List.map_cons]

theorem children_map (f : α → β) (t : Tree α) : (t.map f).children = t.children.map (map f) := by
  obtain ⟨a, cs⟩ := t
  rw [map, children, children, mapAll_eq_map]

def put : Tree α → List Nat → Tree α → Tree α
  | _, [], u => u
  | t, i :: path, u => node t.label (t.children.modify i (put · path u))

theorem label_put {path : List Nat} (h : path ≠ []) (t u : Tree α) :
    (t.put path u).label = t.label := by
  cases path with
  | nil => exact absurd rfl h
  | cons i rest => rfl

theorem exists_put {s c : Spot α} {i : Nat} (h : s.child? i = some c) (path : List Nat)
    (u : Tree α) :
    ∃ before after, before.length = i ∧ s.tree = node s.label (before ++ c.tree :: after) ∧
      s.tree.put (i :: path) u = node s.label (before ++ c.tree.put path u :: after) := by
  obtain ⟨d, hd, rfl⟩ := Spot.child?_eq_some_iff.mp h
  obtain ⟨⟨a, cs⟩, above, address⟩ := s
  obtain ⟨hi, rfl⟩ := List.getElem?_eq_some_iff.mp hd
  change i < cs.length at hi
  refine ⟨cs.take i, cs.drop (i + 1), List.length_take_of_le (Nat.le_of_lt hi), ?_, ?_⟩
  · change node a cs = node a (cs.take i ++ cs[i] :: cs.drop (i + 1))
    rw [List.getElem_cons_drop, List.take_append_drop]
  · change node a (cs.modify i _) = node a (cs.take i ++ put cs[i] path u :: cs.drop (i + 1))
    rw [List.modify_eq_take_cons_drop hi]

theorem child?_map (f : α → β) (s : Spot α) (i : Nat) :
    (s.map f).child? i = (s.child? i).map (Spot.map f) := by
  simp only [Spot.child?, Spot.map, children_map, List.getElem?_map, Option.map_map]
  rfl

theorem locate_mem_locateAll {above : List (Tree α)} {address : List Nat} {cs : List (Tree α)}
    {i : Nat} {c : Tree α} (j : Nat) (h : cs[i]? = some c) :
    locate above ((j + i) :: address) c ∈ locateAll above address j cs := by
  induction cs generalizing i j with
  | nil => cases h
  | cons d ds ih =>
    rw [locateAll]
    cases i with
    | zero =>
      obtain rfl := Option.some.inj h
      exact List.mem_cons_self
    | succ i =>
      have hm := ih (j + 1) (by simpa using h)
      rw [Nat.add_assoc, Nat.add_comm 1 i] at hm
      exact List.mem_cons_of_mem _ hm

theorem exists_locate_of_mem_locateAll {above : List (Tree α)} {address : List Nat}
    {cs : List (Tree α)} {j : Nat} {l : Tree (Spot α)} (h : l ∈ locateAll above address j cs) :
    ∃ i c, cs[i]? = some c ∧ l = locate above ((j + i) :: address) c := by
  induction cs generalizing j with
  | nil => cases h
  | cons d ds ih =>
    rw [locateAll] at h
    rcases List.mem_cons.mp h with rfl | h
    · exact ⟨0, d, rfl, rfl⟩
    · obtain ⟨i, c, hc, rfl⟩ := ih h
      exact ⟨i + 1, c, by simpa using hc, by rw [Nat.add_assoc, Nat.add_comm 1 i]⟩

theorem locateAll_append (above : List (Tree α)) (address : List Nat) (i : Nat)
    (a b : List (Tree α)) :
    locateAll above address i (a ++ b) =
      locateAll above address i a ++ locateAll above address (i + a.length) b := by
  induction a generalizing i with
  | nil => rfl
  | cons c cs ih =>
    rw [List.cons_append, locateAll, ih, locateAll, List.cons_append, List.length_cons,
      Nat.add_assoc, Nat.add_comm 1]

theorem children_locate (above : List (Tree α)) (address : List Nat) (t : Tree α) :
    (locate above address t).children = locateAll (t :: above) address 0 t.children := by
  obtain ⟨a, cs⟩ := t
  rw [locate, children, children]

theorem label_locate (above : List (Tree α)) (address : List Nat) (t : Tree α) :
    (locate above address t).label = ⟨t, above, address⟩ := by
  obtain ⟨a, cs⟩ := t
  rw [locate, label]

theorem label_mem_preorder (t : Tree α) : t.label ∈ t.preorder := by
  obtain ⟨a, cs⟩ := t
  simp [label]

theorem mem_locate_of_follow {above : List (Tree α)} {address path : List Nat} {t : Tree α}
    {s : Spot α} (h : Spot.follow ⟨t, above, address⟩ path = some s) :
    s ∈ (locate above address t).preorder := by
  induction path generalizing above address t with
  | nil =>
    obtain rfl := Option.some.inj h
    have hm := label_mem_preorder (locate above address t)
    rwa [label_locate] at hm
  | cons i rest ih =>
    obtain ⟨y, hy, hrest⟩ := Option.bind_eq_some_iff.mp h
    obtain ⟨c, hc, rfl⟩ := Spot.child?_eq_some_iff.mp hy
    have hm : locate (t :: above) (i :: address) c ∈ (locate above address t).children := by
      have hl : locate (t :: above) ((0 + i) :: address) c ∈
          locateAll (t :: above) address 0 t.children := locate_mem_locateAll 0 hc
      rwa [Nat.zero_add, ← children_locate] at hl
    exact preorder_subset_of_mem_children hm (ih hrest)

mutual
theorem exists_follow_of_mem_locate (above : List (Tree α)) (address : List Nat) :
    ∀ t : Tree α, ∀ s ∈ (locate above address t).preorder,
      ∃ path, Spot.follow ⟨t, above, address⟩ path = some s
  | node a cs => by
    intro s hs
    simp only [locate, preorder_node, List.mem_cons] at hs
    rcases hs with rfl | hs
    · exact ⟨[], rfl⟩
    · obtain ⟨i, c, path, hc, hpath⟩ :=
        exists_follow_of_mem_locateAll (node a cs :: above) address 0 cs s hs
      rw [Nat.zero_add] at hpath
      have hchild : Spot.child? ⟨node a cs, above, address⟩ i =
          some ⟨c, node a cs :: above, i :: address⟩ :=
        Spot.child?_eq_some_iff.mpr ⟨c, hc, rfl⟩
      exact ⟨i :: path, by rw [Spot.follow, hchild, Option.bind_some, hpath]⟩

theorem exists_follow_of_mem_locateAll (above : List (Tree α)) (address : List Nat) (i : Nat) :
    ∀ cs : List (Tree α), ∀ s ∈ forestPreorder (locateAll above address i cs),
      ∃ j c path, cs[j]? = some c ∧
        Spot.follow ⟨c, above, (i + j) :: address⟩ path = some s
  | [] => by simp [locateAll]
  | c :: cs => by
    intro s hs
    simp only [locateAll, forestPreorder_cons, List.mem_append] at hs
    rcases hs with hs | hs
    · obtain ⟨path, hpath⟩ := exists_follow_of_mem_locate above (i :: address) c s hs
      exact ⟨0, c, path, rfl, hpath⟩
    · obtain ⟨j, d, path, hd, hpath⟩ :=
        exists_follow_of_mem_locateAll above address (i + 1) cs s hs
      refine ⟨j + 1, d, path, by simpa using hd, ?_⟩
      rwa [Nat.add_comm j 1, ← Nat.add_assoc]
end

theorem mem_spots_iff {t : Tree α} {s : Spot α} :
    s ∈ t.spots.preorder ↔ (Spot.root t).follow s.address.reverse = some s := by
  constructor
  · intro h
    obtain ⟨path, hpath⟩ := exists_follow_of_mem_locate [] [] t s h
    have ha := Spot.address_of_follow hpath
    rw [List.append_nil] at ha
    rwa [ha, List.reverse_reverse]
  · exact mem_locate_of_follow

theorem follow_mem_spots {t : Tree α} {s u : Spot α} {path : List Nat}
    (hs : s ∈ t.spots.preorder) (h : s.follow path = some u) : u ∈ t.spots.preorder := by
  have hpath : (Spot.root t).follow (s.address.reverse ++ path) = some u := by
    rw [Spot.follow_append, mem_spots_iff.mp hs, Option.bind_some, h]
  exact mem_locate_of_follow hpath

theorem child?_mem_spots {t : Tree α} {s u : Spot α} {i : Nat} (hs : s ∈ t.spots.preorder)
    (h : s.child? i = some u) : u ∈ t.spots.preorder :=
  follow_mem_spots hs (by rw [Spot.follow_singleton, h])

theorem exists_child?_of_parent? {t : Tree α} {s p : Spot α} (hs : s ∈ t.spots.preorder)
    (h : s.parent? = some p) : p ∈ t.spots.preorder ∧ ∃ i, p.child? i = some s := by
  have hroot := mem_spots_iff.mp hs
  cases ha : s.address with
  | nil =>
    rw [ha] at hroot
    obtain rfl := Option.some.inj hroot
    cases h
  | cons i rest =>
    rw [ha, List.reverse_cons, Spot.follow_append] at hroot
    obtain ⟨q, hq, hchild⟩ := Option.bind_eq_some_iff.mp hroot
    rw [Spot.follow_singleton] at hchild
    obtain rfl : p = q := Option.some.inj (h.symm.trans (Spot.parent?_of_child? hchild))
    exact ⟨mem_locate_of_follow hq, i, hchild⟩

@[elab_as_elim]
theorem parent_induction {t : Tree α} {motive : (s : Spot α) → s ∈ t.spots.preorder → Prop}
    (step : ∀ s hs, (∀ p hp, s.parent? = some p → motive p hp) → motive s hs) (s : Spot α)
    (hs : s ∈ t.spots.preorder) : motive s hs := by
  induction hlength : s.address.length using Nat.strongRecOn generalizing s with
  | ind n ih =>
    refine step s hs fun p hp hparent => ih p.address.length ?_ p hp rfl
    obtain ⟨-, i, hi⟩ := exists_child?_of_parent? hs hparent
    rw [← hlength, Spot.address_of_child? hi]
    exact Nat.lt_succ_self _

theorem eq_of_address_eq {t : Tree α} {s u : Spot α} (hs : s ∈ t.spots.preorder)
    (hu : u ∈ t.spots.preorder) (h : s.address = u.address) : s = u := by
  have hroot := mem_spots_iff.mp hs
  rw [h, mem_spots_iff.mp hu] at hroot
  exact (Option.some.inj hroot).symm

theorem mem_subtreesTo_locate {depth : Nat} {above : List (Tree α)} {address : List Nat}
    {t : Tree α} {s : Spot α} :
    s ∈ (subtreesTo depth (locate above address t)).map label ↔
      ∃ path, path.length ≤ depth ∧ Spot.follow ⟨t, above, address⟩ path = some s := by
  induction depth generalizing above address t with
  | zero =>
    simp [subtreesTo, label_locate, Spot.follow, eq_comm]
  | succ depth ih =>
    rw [subtreesTo, List.map_cons, List.mem_cons, label_locate, List.map_flatMap, List.mem_flatMap,
      children_locate]
    constructor
    · rintro (rfl | ⟨l, hl, hs⟩)
      · exact ⟨[], Nat.zero_le _, rfl⟩
      · obtain ⟨i, c, hc, rfl⟩ := exists_locate_of_mem_locateAll hl
        rw [Nat.zero_add] at hs
        obtain ⟨path, hlength, hpath⟩ := ih.mp hs
        refine ⟨i :: path, Nat.succ_le_succ hlength, ?_⟩
        rw [Spot.follow, Spot.child?_eq_some_iff.mpr ⟨c, hc, rfl⟩, Option.bind_some, hpath]
    · rintro ⟨path, hlength, hpath⟩
      cases path with
      | nil => exact .inl (Option.some.inj hpath).symm
      | cons i rest =>
        obtain ⟨y, hy, hrest⟩ := Option.bind_eq_some_iff.mp hpath
        obtain ⟨c, hc, rfl⟩ := Spot.child?_eq_some_iff.mp hy
        refine .inr ⟨_, locate_mem_locateAll 0 hc, ?_⟩
        rw [Nat.zero_add]
        exact ih.mpr ⟨rest, Nat.le_of_succ_le_succ hlength, hrest⟩

theorem mem_visited_iff {limit : Int} {t : Tree α} {s : Spot α} :
    s ∈ t.visited limit ↔ s ∈ t.spots.preorder ∧ s.address.length ≤ limit.toNat := by
  rw [visited, spots, mem_subtreesTo_locate]
  constructor
  · rintro ⟨path, hlength, hpath⟩
    refine ⟨mem_locate_of_follow hpath, ?_⟩
    rw [Spot.address_of_follow hpath]
    simpa using hlength
  · rintro ⟨hs, hlength⟩
    exact ⟨s.address.reverse, by simpa using hlength, mem_spots_iff.mp hs⟩

mutual
theorem locate_map (f : α → β) (above : List (Tree α)) (address : List Nat) :
    ∀ t : Tree α, locate (mapAll f above) address (t.map f) =
      (locate above address t).map (Spot.map f)
  | node a cs => by
    have hcs := locateAll_map f (node a cs :: above) address 0 cs
    rw [mapAll, map] at hcs
    rw [map, locate, locate, map, hcs]
    rfl

theorem locateAll_map (f : α → β) (above : List (Tree α)) (address : List Nat) (i : Nat) :
    ∀ cs : List (Tree α), locateAll (mapAll f above) address i (mapAll f cs) =
      mapAll (Spot.map f) (locateAll above address i cs)
  | [] => rfl
  | c :: cs => by
    rw [mapAll, locateAll, locateAll, mapAll, locate_map f above (i :: address) c,
      locateAll_map f above address (i + 1) cs]
end

theorem preorder_spots_map (f : α → β) (t : Tree α) :
    (t.map f).spots.preorder = t.spots.preorder.map (Spot.map f) := by
  rw [spots, spots, ← preorder_map]
  exact congrArg preorder (locate_map f [] [] t)

end Tree

end DesignLint
