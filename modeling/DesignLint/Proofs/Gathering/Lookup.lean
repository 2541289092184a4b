import DesignLint.Proofs.Gathering.Run
import Mathlib.Algebra.GroupWithZero.Nat
import Mathlib.Data.List.Dedup
import Mathlib.Data.List.Lex

namespace DesignLint

namespace Spot

variable {α : Type}

def path (s : Spot α) : List Nat :=
  s.address.reverse

def comesFirst (s u : Spot α) : Bool :=
  decide (s.path ≤ u.path)

end Spot

namespace Tree

variable {α : Type}

mutual
theorem pairwise_path_locate (above : List (Tree α)) (address : List Nat) :
    ∀ t : Tree α, (locate above address t).preorder.Pairwise fun s u => s.path < u.path
  | node a cs => by
    rw [locate, preorder_node, List.pairwise_cons]
    refine ⟨?_, pairwise_path_locateAll (node a cs :: above) address 0 cs⟩
    intro s hs
    obtain ⟨way, j, -, h⟩ := address_of_mem_locateAll (node a cs :: above) address 0 cs s hs
    have hpath : s.path = address.reverse ++ j :: way.reverse := by simp [Spot.path, h]
    have hlt : address.reverse ++ [] < address.reverse ++ j :: way.reverse :=
      List.append_left_lt (List.nil_lt_cons _ _)
    rw [hpath]
    rwa [List.append_nil] at hlt

theorem pairwise_path_locateAll (above : List (Tree α)) (address : List Nat) (i : Nat) :
    ∀ cs : List (Tree α),
      (forestPreorder (locateAll above address i cs)).Pairwise fun s u => s.path < u.path
  | [] => .nil
  | c :: cs => by
    rw [locateAll, forestPreorder_cons, List.pairwise_append]
    refine ⟨pairwise_path_locate above (i :: address) c,
      pairwise_path_locateAll above address (i + 1) cs, ?_⟩
    intro s hs u hu
    obtain ⟨p, hp⟩ := address_of_mem_locate above (i :: address) c s hs
    obtain ⟨q, j, hj, hq⟩ := address_of_mem_locateAll above address (i + 1) cs u hu
    have hs' : s.path = address.reverse ++ i :: p.reverse := by simp [Spot.path, hp]
    have hu' : u.path = address.reverse ++ j :: q.reverse := by simp [Spot.path, hq]
    rw [hs', hu']
    exact List.append_left_lt (List.cons_lt_cons_iff.mpr (.inl hj))
end

theorem pairwise_path_visited (limit : Int) (t : Tree α) :
    (t.visited limit).Pairwise fun s u => s.path < u.path :=
  (pairwise_path_locate [] [] t).sublist (visited_sublist limit t)

end Tree

section Merging

variable {α κ : Type} (le : α → α → Bool)

def mergeAll (lists : List (List α)) : List α :=
  lists.foldr (fun l merged => l.merge merged le) []

variable {le} {x : α} {l a b : List α}

theorem length_mergeAll (lists : List (List α)) :
    (mergeAll le lists).length = (lists.map List.length).sum := by
  induction lists with
  | nil => rfl
  | cons l rest ih => rw [mergeAll, List.foldr_cons, ← mergeAll, List.length_merge, ih]; rfl

theorem merge_cons_left (h : ∀ y ∈ b, le x y = true) :
    (x :: a).merge b le = x :: a.merge b le := by
  cases b with
  | nil => simp
  | cons y ys => rw [List.cons_merge_cons, if_pos (h y List.mem_cons_self)]

theorem merge_cons_right (h : ∀ y ∈ a, le y x = false) :
    a.merge (x :: b) le = x :: a.merge b le := by
  cases a with
  | nil => simp
  | cons y ys =>
    have hy : ¬ le y x = true := by simp [h y List.mem_cons_self]
    rw [List.cons_merge_cons, if_neg hy]

theorem filter_or_eq_merge (hl : l.Pairwise fun s u => le s u = true ∧ le u s = false)
    {p q : α → Bool} (hpq : ∀ x, p x = true → q x = false) :
    l.filter (fun x => p x || q x) = (l.filter p).merge (l.filter q) le := by
  induction l with
  | nil => simp
  | cons x xs ih =>
    obtain ⟨hx, hxs⟩ := List.pairwise_cons.mp hl
    have hrest := ih hxs
    cases hp : p x with
    | true =>
      have hq := hpq x hp
      rw [List.filter_cons_of_pos (by simp [hp]), List.filter_cons_of_pos hp,
        List.filter_cons_of_neg (by simp [hq]), hrest, merge_cons_left]
      exact fun y hy => (hx y (List.mem_of_mem_filter hy)).1
    | false =>
      rw [List.filter_cons_of_neg (p := p) (by simp [hp])]
      cases hq : q x with
      | true =>
        rw [List.filter_cons_of_pos (by simp [hq]), List.filter_cons_of_pos hq, hrest,
          merge_cons_right]
        exact fun y hy => (hx y (List.mem_of_mem_filter hy)).2
      | false =>
        rw [List.filter_cons_of_neg (by simp [hp, hq]), List.filter_cons_of_neg (by simp [hq]),
          hrest]

variable [DecidableEq κ]

theorem filter_contains_eq_mergeAll (hl : l.Pairwise fun s u => le s u = true ∧ le u s = false)
    (kindOf : α → κ) {kinds : List κ} (hk : kinds.Nodup) :
    l.filter (fun x => kinds.contains (kindOf x)) =
      mergeAll le (kinds.map fun kind => l.filter fun x => kindOf x = kind) := by
  induction kinds with
  | nil => exact List.filter_eq_nil_iff.mpr (by simp)
  | cons kind kinds ih =>
    obtain ⟨hkind, hkinds⟩ := List.nodup_cons.mp hk
    have hother (x : α) (hx : decide (kindOf x = kind) = true) :
        kinds.contains (kindOf x) = false := by
      rw [of_decide_eq_true hx]
      simpa using hkind
    have hmerge := filter_or_eq_merge hl hother
    rw [ih hkinds] at hmerge
    rw [List.map_cons, mergeAll, List.foldr_cons, ← mergeAll, ← hmerge]
    refine List.filter_congr fun x _ => ?_
    simp

end Merging

namespace Kind

def all : List Kind :=
  [program, classDecl, interfaceDecl, method, methodSignature, property, function, arrow,
   importDecl, call, construction, member, binary, logical, unary, branch, selection, case, loop,
   attempt, handler, throwing, returning, conditional, assignment, block, object, pair, declarator,
   identifier, string, null, other]

theorem mem_all (kind : Kind) : kind ∈ all := by
  cases kind <;> decide

end Kind

namespace Context

structure LooksUp (visited : List Site) (c : Context) : Prop where
  ordered : visited.Pairwise fun s u => s.path < u.path
  ofKind : ∀ kind, c.sites [kind] = visited.filter fun s => Site.kind s = kind
  ofKinds : ∀ kinds, c.sites kinds = visited.filter fun s => Site.kind s ∈ kinds
  merged : ∀ kinds,
    c.sites kinds = mergeAll Spot.comesFirst (kinds.dedup.map fun kind => c.sites [kind])
  regardless : ∀ kinds kinds', (∀ kind, kind ∈ kinds ↔ kind ∈ kinds') →
    c.sites kinds = c.sites kinds'
  lengths : (Kind.all.map fun kind => (c.sites [kind]).length).sum = c.visited

section Collected

variable (path : String) (limit : Int) (root : SyntaxTree)

theorem sites_eq_filter (kinds : List Kind) :
    (collect path limit root).sites kinds =
      (root.visited limit).filter fun s => kinds.contains (Site.kind s) := by
  match kinds with
  | [] => simp [sites, SiteIndex.ofKinds]
  | [kind] =>
    rw [sites_collect_single]
    exact List.filter_congr fun s _ => by simp
  | first :: second :: rest => exact sites_collect path limit root first second rest

theorem visited_collect : (collect path limit root).visited = (root.visited limit).length := by
  obtain ⟨g, -, hc⟩ := exists_gathered path limit root
  rw [hc]

-- No two visited places share a path, so each comes strictly before those after it.
theorem pairwise_comesFirst : (root.visited limit).Pairwise fun s u =>
    Spot.comesFirst s u = true ∧ Spot.comesFirst u s = false := by
  refine (Tree.pairwise_path_visited limit root).imp fun {s u} h => ?_
  exact ⟨decide_eq_true h.le, decide_eq_false h.not_ge⟩

theorem sites_eq_mergeAll {kinds : List Kind} (hk : kinds.Nodup) :
    (collect path limit root).sites kinds =
      mergeAll Spot.comesFirst (kinds.map fun kind => (collect path limit root).sites [kind]) := by
  simp only [sites_collect_single]
  rw [sites_eq_filter]
  exact filter_contains_eq_mergeAll (pairwise_comesFirst limit root) Site.kind hk

theorem sites_congr {kinds kinds' : List Kind} (h : ∀ kind, kind ∈ kinds ↔ kind ∈ kinds') :
    (collect path limit root).sites kinds = (collect path limit root).sites kinds' := by
  rw [sites_eq_filter, sites_eq_filter]
  refine List.filter_congr fun s _ => ?_
  rw [Bool.eq_iff_iff, List.contains_iff_mem, List.contains_iff_mem]
  exact h (Site.kind s)

end Collected

theorem collect_looksUp (path : String) (limit : Int) (root : SyntaxTree) :
    LooksUp (root.visited limit) (collect path limit root) where
  ordered := Tree.pairwise_path_visited limit root
  ofKind := sites_collect_single path limit root
  ofKinds := by
    intro kinds
    rw [sites_eq_filter]
    exact List.filter_congr fun s _ => by simp
  merged := by
    intro kinds
    rw [← sites_eq_mergeAll path limit root (List.nodup_dedup kinds)]
    exact sites_congr path limit root fun kind => (List.mem_dedup).symm
  regardless := fun _ _ => sites_congr path limit root
  lengths := by
    have hnodup : Kind.all.Nodup := by decide
    have hlength := congrArg List.length (sites_eq_mergeAll path limit root hnodup)
    rw [length_mergeAll, List.map_map, sites_eq_filter] at hlength
    rw [visited_collect]
    refine hlength.symm.trans (congrArg List.length (List.filter_eq_self.mpr fun s _ => ?_))
    exact List.contains_iff_mem.mpr (Kind.mem_all _)

end Context

end DesignLint
