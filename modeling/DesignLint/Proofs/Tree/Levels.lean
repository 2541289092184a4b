import DesignLint.Proofs.Tree.Walk
import Mathlib.Data.List.Basic

namespace DesignLint

namespace Tree

variable {α : Type}

mutual
def leveled (depth : Nat) : Tree α → List (Nat × Tree α)
  | node a cs => (depth, node a cs) :: leveledAll (depth + 1) cs

def leveledAll (depth : Nat) : List (Tree α) → List (Nat × Tree α)
  | [] => []
  | c :: cs => leveled depth c ++ leveledAll depth cs
end

theorem leveledAll_eq_flatMap (depth : Nat) (cs : List (Tree α)) :
    leveledAll depth cs = cs.flatMap (leveled depth) := by
  induction cs with
  | nil => rfl
  | cons c cs ih => rw [leveledAll, ih, List.flatMap_cons]

theorem leveled_eq (depth : Nat) (t : Tree α) :
    leveled depth t = (depth, t) :: leveledAll (depth + 1) t.children := by
  obtain ⟨a, cs⟩ := t
  rw [leveled, children]

mutual
theorem map_snd_leveled (depth : Nat) :
    ∀ t : Tree α, (leveled depth t).map Prod.snd = t.subtrees
  | node a cs => by rw [leveled, List.map_cons, map_snd_leveledAll (depth + 1) cs, subtrees]

theorem map_snd_leveledAll (depth : Nat) :
    ∀ cs : List (Tree α), (leveledAll depth cs).map Prod.snd = forestSubtrees cs
  | [] => rfl
  | c :: cs => by
    rw [leveledAll, List.map_append, map_snd_leveled depth c, map_snd_leveledAll depth cs,
      forestSubtrees]
end

mutual
theorem depth_of_mem_leveled (depth : Nat) :
    ∀ t : Tree α, ∀ e ∈ leveled depth t, depth ≤ e.1 ∧ e.1 ≤ depth + t.height
  | node a cs => by
    intro e he
    rw [height]
    rcases List.mem_cons.mp he with rfl | he
    · exact ⟨Nat.le_refl _, Nat.le_add_right _ _⟩
    · have hbelow := depth_of_mem_leveledAll (depth + 1) cs e he
      omega

theorem depth_of_mem_leveledAll (depth : Nat) :
    ∀ cs : List (Tree α), ∀ e ∈ leveledAll depth cs, depth ≤ e.1 ∧ e.1 < depth + forestHeight cs
  | [] => by
    intro e he
    cases he
  | c :: cs => by
    intro e he
    rw [forestHeight]
    rcases List.mem_append.mp he with he | he
    · have hfirst := depth_of_mem_leveled depth c e he
      omega
    · have hrest := depth_of_mem_leveledAll depth cs e he
      omega
end

theorem filter_leveled_of_limit (depth : Nat) (t : Tree α) :
    (leveled depth t).filter (fun e => e.1 ≤ depth) = [(depth, t)] := by
  have hbelow : (leveledAll (depth + 1) t.children).filter (fun e => e.1 ≤ depth) = [] := by
    refine List.filter_eq_nil_iff.mpr fun e he => ?_
    have hdepth := (depth_of_mem_leveledAll (depth + 1) t.children e he).1
    rw [decide_eq_true_iff]
    omega
  rw [leveled_eq, List.filter_cons_of_pos (by simp), hbelow]

-- No entry of the agenda lies beyond the limit: children join it only where one more level is left.
theorem drain_eq_filter {limit : Int} {agenda : List (Nat × Tree α)}
    (h : ∀ e ∈ agenda, e.1 ≤ limit.toNat) :
    drain limit agenda =
      (agenda.flatMap fun e => leveled e.1 e.2).filter fun e => e.1 ≤ limit.toNat := by
  fun_induction drain limit agenda with
  | case1 => rfl
  | case2 depth t rest ih =>
    simp only [dite_eq_ite] at ih
    have hdepth : depth ≤ limit.toNat := h (depth, t) List.mem_cons_self
    have hrest : ∀ e ∈ rest, e.1 ≤ limit.toNat := fun e he => h e (List.mem_cons_of_mem _ he)
    rw [List.flatMap_cons, List.filter_append]
    by_cases hstop : limit ≤ Int.ofNat depth
    · have hlimit : limit.toNat = depth := by
        have : limit ≤ depth := hstop
        omega
      rw [if_pos hstop] at ih ⊢
      rw [ih hrest, hlimit, filter_leveled_of_limit, List.singleton_append]
    · have hlimit : depth + 1 ≤ limit.toNat := by
        have : ¬ limit ≤ depth := hstop
        omega
      rw [if_neg hstop] at ih ⊢
      have hnext : ∀ e ∈ t.children.map (depth + 1, ·) ++ rest, e.1 ≤ limit.toNat := by
        intro e he
        rcases List.mem_append.mp he with he | he
        · obtain ⟨c, -, rfl⟩ := List.mem_map.mp he
          exact hlimit
        · exact hrest e he
      rw [ih hnext, leveled_eq, List.filter_cons_of_pos (by simpa using hdepth),
        List.flatMap_append, List.flatMap_map, List.filter_append, leveledAll_eq_flatMap,
        List.cons_append]

def within (limit : Int) (withRoot : Bool) (t : Tree α) : List (Tree α) :=
  ((leveled 0 t).filter fun e => e.1 ≤ limit.toNat && (withRoot || 0 < e.1)).map Prod.snd

theorem walk_eq_within (limit : Int) (withRoot : Bool) (t : Tree α) :
    t.walk limit withRoot = t.within limit withRoot := by
  have hroot : ∀ e ∈ [(0, t)], e.1 ≤ limit.toNat := by simp
  rw [walk, drain_eq_filter hroot, List.flatMap_singleton, List.filter_filter, within]
  simp only [Bool.and_comm]

theorem walk_sublist_of_le {narrow wide : Int} (h : narrow ≤ wide) (withRoot : Bool)
    (t : Tree α) : (t.walk narrow withRoot).Sublist (t.walk wide withRoot) := by
  rw [walk_eq_within, walk_eq_within]
  refine (List.monotone_filter_right _ fun e he => ?_).map Prod.snd
  rw [Bool.and_eq_true, decide_eq_true_iff] at he ⊢
  exact ⟨by omega, he.2⟩

theorem walk_of_height_le {limit : Int} {t : Tree α} (h : Int.ofNat t.height ≤ limit)
    (withRoot : Bool) :
    t.walk limit withRoot = if withRoot then t.subtrees else forestSubtrees t.children := by
  have hlimit : t.height ≤ limit.toNat := by
    have : (t.height : Int) ≤ limit := h
    omega
  have hall : (leveled 0 t).filter (fun e => e.1 ≤ limit.toNat && (withRoot || 0 < e.1)) =
      (leveled 0 t).filter fun e => withRoot || 0 < e.1 := by
    refine List.filter_congr fun e he => ?_
    have hdepth := (depth_of_mem_leveled 0 t e he).2
    rw [decide_eq_true (by omega), Bool.true_and]
  rw [walk_eq_within, within, hall]
  cases withRoot with
  | true => simp [map_snd_leveled]
  | false =>
    have hbelow : (leveledAll 1 t.children).filter (fun e => false || 0 < e.1) =
        leveledAll 1 t.children := by
      refine List.filter_eq_self.mpr fun e he => ?_
      have hdepth := (depth_of_mem_leveledAll 1 t.children e he).1
      exact decide_eq_true (by omega)
    rw [leveled_eq, List.filter_cons_of_neg (by simp), hbelow, map_snd_leveledAll]
    rfl

end Tree

namespace Walker

variable {α κ σ : Type}

inductive Registration (α κ σ : Type)
  | visiting (kind : Option κ) (call : α → σ → σ)
  | closing (call : σ → σ)

def register (w : Walker α κ σ) : Registration α κ σ → Walker α κ σ
  | .visiting kind call => w.on kind call
  | .closing call => w.onEnd call

def ofRegistrations (registrations : List (Registration α κ σ)) : Walker α κ σ :=
  registrations.foldl register {}

def Registration.atEnd? : Registration α κ σ → Option (σ → σ)
  | .visiting _ _ => none
  | .closing call => some call

theorem hooks_foldl_register (w : Walker α κ σ) (registrations : List (Registration α κ σ)) :
    (registrations.foldl register w).hooks =
      w.hooks ++ registrations.filterMap Registration.atEnd? := by
  induction registrations generalizing w with
  | nil => simp
  | cons registration rest ih =>
    rw [List.foldl_cons, ih]
    cases registration with
    | visiting kind call => rfl
    | closing call => simp [register, onEnd, Registration.atEnd?]

section Kinds

variable [DecidableEq κ]

def Registration.forKind? (kind : Option κ) : Registration α κ σ → Option (α → σ → σ)
  | .visiting k call => if k = kind then some call else none
  | .closing _ => none

theorem registered_foldl_register (w : Walker α κ σ)
    (registrations : List (Registration α κ σ)) (kind : Option κ) :
    (registrations.foldl register w).registered kind =
      w.registered kind ++ registrations.filterMap (Registration.forKind? kind) := by
  induction registrations generalizing w with
  | nil => simp
  | cons registration rest ih =>
    rw [List.foldl_cons, ih]
    cases registration with
    | visiting k call =>
      by_cases hk : k = kind <;> simp [register, on, registered, Registration.forKind?, hk]
    | closing call => rfl

def callsAt (registrations : List (Registration α κ σ)) (kindOf : α → κ) (a : α) : List (σ → σ) :=
  (registrations.filterMap (Registration.forKind? none) ++
    registrations.filterMap (Registration.forKind? (some (kindOf a)))).map fun call => call a

def calls (registrations : List (Registration α κ σ)) (kindOf : α → κ) (nodes : List α) :
    List (σ → σ) :=
  nodes.flatMap (callsAt registrations kindOf) ++ registrations.filterMap Registration.atEnd?

theorem dispatch_ofRegistrations (registrations : List (Registration α κ σ)) (kindOf : α → κ)
    (state : σ) (a : α) :
    (ofRegistrations registrations).dispatch kindOf state a =
      (callsAt registrations kindOf a).foldl (fun s call => call s) state := by
  rw [dispatch, callsAt, List.foldl_map, ofRegistrations, registered_foldl_register,
    registered_foldl_register]
  rfl

theorem run_ofRegistrations (registrations : List (Registration α κ σ)) (kindOf : α → κ)
    (limit : Int) (t : Tree α) (state : σ) :
    let nodes := (t.within limit true).map Tree.label
    (ofRegistrations registrations).run kindOf limit t state =
      ((calls registrations kindOf nodes).foldl (fun s call => call s) state, nodes.length) := by
  have hhooks : (ofRegistrations registrations).hooks =
      registrations.filterMap Registration.atEnd? := hooks_foldl_register {} registrations
  have hdispatch : (ofRegistrations registrations).dispatch kindOf = fun s a =>
      (callsAt registrations kindOf a).foldl (fun s call => call s) s := by
    funext s a
    exact dispatch_ofRegistrations registrations kindOf s a
  intro nodes
  rw [run, Tree.walk_eq_within, hhooks, hdispatch, calls, List.foldl_append, List.foldl_flatMap]

theorem visits_by_levels (t : Tree α) :
    (∀ limit withRoot, t.walk limit withRoot = t.within limit withRoot) ∧
    (∀ narrow wide withRoot, narrow ≤ wide →
      (t.walk narrow withRoot).Sublist (t.walk wide withRoot)) ∧
    (∀ limit withRoot, Int.ofNat t.height ≤ limit →
      t.walk limit withRoot = if withRoot then t.subtrees else Tree.forestSubtrees t.children) ∧
    ∀ (registrations : List (Registration α κ σ)) (kindOf : α → κ) (limit : Int) (state : σ),
      let nodes := (t.within limit true).map Tree.label
      (ofRegistrations registrations).run kindOf limit t state =
        ((calls registrations kindOf nodes).foldl (fun s call => call s) state, nodes.length) := by
  refine ⟨?_, ?_, ?_, ?_⟩
  · intro limit withRoot
    exact Tree.walk_eq_within limit withRoot t
  · intro narrow wide withRoot h
    exact Tree.walk_sublist_of_le h withRoot t
  · intro limit withRoot h
    exact Tree.walk_of_height_le h withRoot
  · intro registrations kindOf limit state
    exact run_ofRegistrations registrations kindOf limit t state

end Kinds

def fork : Tree Nat :=
  .node 0 [.node 1 [.node 2 []], .node 3 []]

-- Even and odd labels are the two kinds; each call notes its own number and the node it is made at.
def noting : List (Registration Nat Nat (List (Nat × Option Nat))) :=
  let note (number a : Nat) (log : List (Nat × Option Nat)) := log ++ [(number, some a)]
  [.closing fun log => log ++ [(4, none)], .visiting (some 1) (note 2), .visiting none (note 1),
   .visiting (some 1) (note 3)]

theorem visits_in_fork :
    (-1 : Int) ≤ 1 ∧ (fork.walk (-1) false).Sublist (fork.walk 1 false) ∧
    (fork.walk (-1) false).map Tree.label = [] ∧ (fork.walk 1 false).map Tree.label = [1, 3] ∧
    Int.ofNat fork.height ≤ 2 ∧ (fork.walk 2 true).map Tree.label = fork.preorder ∧
    (ofRegistrations noting).run (· % 2) 1 fork [] =
      ([(1, some 0), (1, some 1), (2, some 1), (3, some 1), (1, some 3), (2, some 3), (3, some 3),
        (4, none)], 3) := by
  obtain ⟨hwithin, hwider, hall, hrun⟩ :=
    @visits_by_levels Nat Nat (List (Nat × Option Nat)) _ fork
  have hheight : Int.ofNat fork.height ≤ 2 := by decide
  refine ⟨by decide, hwider (-1) 1 false (by decide), ?_, ?_, hheight, ?_, ?_⟩
  · rw [hwithin]
    decide
  · rw [hwithin]
    decide
  · rw [hall 2 true hheight]
    rfl
  · rw [hrun noting (· % 2) 1 []]
    decide

end Walker

end DesignLint
