import DesignLint.Proofs.Tree.Places
import DesignLint.SyntaxTree.Fold

namespace DesignLint

abbrev Place := Spot ParseNode

namespace ParseTree

def isOpen (t : ParseTree) : Bool :=
  t.named && !t.isComment

theorem not_isOpen_node (n : ParseNode) (cs : List ParseTree) :
    (!isOpen (.node n cs)) = (!n.named || isComment (.node n cs)) := by
  rw [isOpen, Bool.not_and, Bool.not_not]
  rfl

end ParseTree

namespace Place

def isRoot (s : Place) : Bool :=
  s.above.isEmpty

def isKept (s : Place) : Bool :=
  s.isRoot ||
    (ParseTree.isOpen s.tree && !ParseTree.isWrapper s.tree &&
      s.above.dropLast.all ParseTree.isOpen)

def holder? (s : Place) : Option Place :=
  s.ancestors.find? fun (a : Place) => a.isRoot || !ParseTree.isWrapper a.tree

theorem holder?_child (t : ParseTree) (above : List ParseTree) (address : List Nat)
    (c : ParseTree) (i : Nat) :
    holder? ⟨c, t :: above, i :: address⟩ =
      if above.isEmpty || !ParseTree.isWrapper t then some ⟨t, above, address⟩
      else holder? ⟨t, above, address⟩ := by
  simp only [holder?, Spot.ancestors, Spot.ancestors.go, List.tail_cons, List.find?_cons, isRoot]
  cases h : above.isEmpty || !ParseTree.isWrapper t <;> simp

theorem not_isKept_of_closed {s : Place} {path above : List ParseTree} {t : ParseTree}
    (ha : above ≠ []) (ht : t.isOpen = false) (hs : s.above = path ++ t :: above) :
    s.isKept = false := by
  have hm : t ∈ s.above.dropLast := by
    rw [hs, List.dropLast_append_of_ne_nil (by simp), List.dropLast_cons_of_ne_nil ha]
    simp
  have hall : s.above.dropLast.all ParseTree.isOpen = false :=
    List.all_eq_false.mpr ⟨t, hm, by simp [ht]⟩
  have hroot : s.isRoot = false := by simp [isRoot, hs]
  rw [isKept, hroot, hall, Bool.and_false, Bool.false_or]

end Place

structure IsOutline (t : ParseTree) (o : Tree Place) : Prop where
  preorder : o.preorder = t.spots.preorder.filter Place.isKept
  parents : o.spots.preorder.map (fun s => s.parent?.map Spot.label) = o.preorder.map Place.holder?

namespace Outline

open DesignLint.Tree

mutual
def gather : Tree Place → List (Tree Place)
  | .node s cs =>
    if !ParseTree.isOpen s.tree then []
    else if ParseTree.isWrapper s.tree then gatherAll cs
    else [.node s (gatherAll cs)]

def gatherAll : List (Tree Place) → List (Tree Place)
  | [] => []
  | c :: cs => gather c ++ gatherAll cs
end

def ofTree (t : ParseTree) : Tree Place :=
  .node (Spot.root t) (gatherAll t.spots.children)

def label (source : Source) (s : Place) : Node :=
  SyntaxTree.nodeOf source s.tree

mutual
theorem fold_eq_gather (source : Source) (above : List ParseTree) (address : List Nat) :
    ∀ t : ParseTree,
      SyntaxTree.fold source t = mapAll (label source) (gather (locate above address t))
  | .node n cs => by
    rw [SyntaxTree.fold, foldAll_eq_gatherAll source (.node n cs :: above) address 0 cs, locate,
      gather, ← ParseTree.not_isOpen_node]
    by_cases ho : ParseTree.isOpen (.node n cs)
    · by_cases hw : ParseTree.isWrapper (.node n cs)
      · simp [ho, hw]
      · simp [ho, hw, mapAll, Tree.map, label]
    · simp [ho, mapAll]

theorem foldAll_eq_gatherAll (source : Source) (above : List ParseTree) (address : List Nat)
    (i : Nat) :
    ∀ cs : List ParseTree, SyntaxTree.foldAll source cs =
      mapAll (label source) (gatherAll (locateAll above address i cs))
  | [] => rfl
  | c :: cs => by
    rw [SyntaxTree.foldAll, fold_eq_gather source above (i :: address) c,
      foldAll_eq_gatherAll source above address (i + 1) cs, locateAll, gatherAll, mapAll_append]
end

theorem ofParse_eq_map (source : Source) (t : ParseTree) :
    SyntaxTree.ofParse source t = (ofTree t).map (label source) := by
  obtain ⟨n, cs⟩ := t
  rw [SyntaxTree.ofParse, ofTree, Tree.map, children,
    foldAll_eq_gatherAll source [.node n cs] [] 0 cs]
  rfl

theorem exists_nodeOf_of_mem {source : Source} {t : ParseTree} {n : Node}
    (h : n ∈ (SyntaxTree.ofParse source t).preorder) :
    ∃ u : ParseTree, n = SyntaxTree.nodeOf source u := by
  rw [ofParse_eq_map, preorder_map] at h
  obtain ⟨s, -, rfl⟩ := List.mem_map.mp h
  exact ⟨s.tree, rfl⟩

mutual
-- The invariant on the way down: some node stands above, and all that stand strictly below the
-- root are open, so that being kept is decided by the node itself.
theorem edges_gather (above : List ParseTree) (address : List Nat) (ha : above ≠ [])
    (hopen : above.dropLast.all ParseTree.isOpen) :
    ∀ t : ParseTree, forestEdges (Place.holder? ⟨t, above, address⟩)
        (gather (locate above address t)) =
      ((locate above address t).preorder.filter Place.isKept).map fun s => (Place.holder? s, s)
  | .node n cs => by
    have hroot : above.isEmpty = false := by simpa using ha
    rw [locate, gather, preorder_node, List.filter_cons]
    by_cases ho : ParseTree.isOpen (.node n cs)
    · have hopen' : (Tree.node n cs :: above).dropLast.all ParseTree.isOpen := by
        rw [List.dropLast_cons_of_ne_nil ha, List.all_cons, ho, hopen]
        rfl
      have below (parent : Option Place) (hp : ∀ (c : ParseTree) (i : Nat),
          Place.holder? ⟨c, .node n cs :: above, i :: address⟩ = parent) :=
        edges_gatherAll (.node n cs :: above) address parent (by simp) hopen' hp 0 cs
      by_cases hw : ParseTree.isWrapper (.node n cs)
      · have hk : Place.isKept ⟨.node n cs, above, address⟩ = false := by
          simp [Place.isKept, Place.isRoot, hroot, hw]
        simp only [ho, hw, hk, Bool.not_true, Bool.false_eq_true, if_false, if_true]
        exact below _ fun c i => by rw [Place.holder?_child, hroot, hw]; rfl
      · have hk : Place.isKept ⟨.node n cs, above, address⟩ = true := by
          simp [Place.isKept, Place.isRoot, ho, hw, hopen]
        simp only [ho, hw, hk, Bool.not_true, Bool.false_eq_true, if_false, if_true,
          List.map_cons, forestEdges, edges, List.append_nil]
        rw [below (some ⟨.node n cs, above, address⟩) fun c i => by
          rw [Place.holder?_child]; simp [hw]]
    · have hk : Place.isKept ⟨.node n cs, above, address⟩ = false := by
        simp [Place.isKept, Place.isRoot, hroot, ho]
      have hnone : (forestPreorder (locateAll (.node n cs :: above) address 0 cs)).filter
          Place.isKept = [] := by
        refine List.filter_eq_nil_iff.mpr fun s hs => ?_
        obtain ⟨path, hp⟩ := above_of_mem_locateAll (.node n cs :: above) address 0 cs s hs
        simp [Place.not_isKept_of_closed ha (by simpa using ho) hp]
      simp [ho, hk, hnone, forestEdges]

theorem edges_gatherAll (above : List ParseTree) (address : List Nat) (parent : Option Place)
    (ha : above ≠ []) (hopen : above.dropLast.all ParseTree.isOpen)
    (hp : ∀ (c : ParseTree) (i : Nat), Place.holder? ⟨c, above, i :: address⟩ = parent)
    (i : Nat) :
    ∀ cs : List ParseTree, forestEdges parent (gatherAll (locateAll above address i cs)) =
      ((forestPreorder (locateAll above address i cs)).filter Place.isKept).map
        fun s => (Place.holder? s, s)
  | [] => rfl
  | c :: cs => by
    have hc := edges_gather above (i :: address) ha hopen c
    rw [hp c i] at hc
    rw [locateAll, gatherAll, forestEdges_append, forestPreorder_cons, List.filter_append,
      List.map_append, hc, edges_gatherAll above address parent ha hopen hp (i + 1) cs]
end

theorem edges_ofTree (t : ParseTree) :
    (ofTree t).edges none =
      (t.spots.preorder.filter Place.isKept).map fun s => (Place.holder? s, s) := by
  obtain ⟨n, cs⟩ := t
  have hroot : Place.isKept (Spot.root (.node n cs)) = true := rfl
  have below := edges_gatherAll [.node n cs] [] (some (Spot.root (.node n cs))) (by simp) rfl
    (fun c i => by rw [Place.holder?_child]; rfl) 0 cs
  change (none, _) :: forestEdges _ (gatherAll (locateAll [.node n cs] [] 0 cs)) = _
  change _ = (List.filter _ (Spot.root (.node n cs) :: forestPreorder _)).map _
  rw [below, List.filter_cons_of_pos hroot]
  rfl

theorem isOutline_iff (t : ParseTree) (o : Tree Place) :
    IsOutline t o ↔ o.edges none =
      (t.spots.preorder.filter Place.isKept).map fun s => (Place.holder? s, s) := by
  rw [← edges_spots]
  constructor
  · intro h
    have hl : o.spots.preorder.map Spot.label = t.spots.preorder.filter Place.isKept := by
      rw [preorder_spots, h.preorder]
    calc o.spots.preorder.map (fun s => (s.parent?.map Spot.label, s.label))
        = (o.preorder.map Place.holder?).zip (o.spots.preorder.map Spot.label) := by
          rw [← h.parents, List.zip_map']
      _ = _ := by
          rw [h.preorder, hl, ← List.zip_map', List.map_id']
  · intro h
    have hl : o.preorder = t.spots.preorder.filter Place.isKept := by
      simpa [Function.comp_def, preorder_spots] using congrArg (List.map Prod.snd) h
    refine ⟨hl, ?_⟩
    rw [hl]
    simpa [Function.comp_def] using congrArg (List.map Prod.fst) h

theorem isOutline_ofTree (t : ParseTree) : IsOutline t (ofTree t) :=
  (isOutline_iff t _).mpr (edges_ofTree t)

theorem nodup_address_ofTree (t : ParseTree) : ((ofTree t).preorder.map Spot.address).Nodup := by
  rw [(isOutline_ofTree t).preorder]
  exact (nodup_address_spots t).sublist (List.filter_sublist.map _)

theorem eq_ofTree_of_isOutline {t : ParseTree} {o : Tree Place} (h : IsOutline t o) :
    o = ofTree t := by
  have he : (ofTree t).edges none = o.edges none := by
    rw [edges_ofTree, (isOutline_iff t o).mp h]
  have hn : (ofTree t).preorder.Nodup :=
    List.Pairwise.of_map Spot.address (fun a b hab e => hab (e ▸ rfl)) (nodup_address_ofTree t)
  exact (eq_of_edges_eq hn he).symm

theorem ofParse_eq_map_outline (source : Source) (t : ParseTree) :
    ∃ o : Tree Place,
      (∀ o' : Tree Place, IsOutline t o' ↔ o' = o) ∧
      (o.preorder.map Spot.address).Nodup ∧
      SyntaxTree.ofParse source t = o.map fun s => SyntaxTree.nodeOf source s.tree := by
  refine ⟨ofTree t, ?_, nodup_address_ofTree t, ofParse_eq_map source t⟩
  intro o'
  constructor
  · exact eq_ofTree_of_isOutline
  · rintro rfl
    exact isOutline_ofTree t

end Outline

end DesignLint
