import DesignLint.Proofs.Declaration.Usage
import Mathlib.Data.List.Perm.Basic

namespace DesignLint

-- A call or a read as it is met: each of the two names may be missing.
inductive Sighting where
  | call (object member : Option String)
  | access (object member : Option String)
deriving DecidableEq, Repr

namespace Sighting

def use? : Sighting → Option Use
  | call object member => Use.of? .call object member
  | access object member => Use.of? .access object member

def object : Sighting → Option String
  | call object _ => object
  | access object _ => object

def member : Sighting → Option String
  | call _ member => member
  | access _ member => member

def IsNamed : Option String → Prop
  | some name => name ≠ ""
  | none => False

theorem use?_eq_none {s : Sighting} (h : ¬ (IsNamed s.object ∧ IsNamed s.member)) :
    s.use? = none := by
  have hof (make : String → String → Use) (object member : Option String)
      (h : ¬ (IsNamed object ∧ IsNamed member)) : Use.of? make object member = none := by
    cases object with
    | none => rfl
    | some o =>
      cases member with
      | none => rfl
      | some m =>
        rw [Use.of?, if_pos]
        by_contra hne
        exact h ⟨fun ho => hne (.inl ho), fun hm => hne (.inr hm)⟩
  cases s with
  | call object member => exact hof .call object member h
  | access object member => exact hof .access object member h

def buffered (met : List Sighting) : List Use :=
  met.filterMap use?

theorem buffered_append (a b : List Sighting) : buffered (a ++ b) = buffered a ++ buffered b :=
  List.filterMap_append

theorem buffered_concat (met : List Sighting) (s : Sighting) :
    buffered (met ++ [s]) = buffered met ++ s.use?.toList := by
  rw [buffered_append]
  cases h : s.use? <;> simp [buffered, h]

end Sighting

open Sighting

namespace Registry

theorem counted_eq (uses : List Use) (d : Declaration) :
    counted uses d = { d with methods := Method.recounted (usesOf uses d) d.methods } := by
  induction uses using List.reverseRecOn with
  | nil =>
    change d = { d with methods := Method.recounted (fun _ => 0) d.methods }
    rw [Method.recounted_zero]
  | append_singleton uses u ih =>
    rw [← methods_counted, counted_concat, Use.markIn]
    split
    · rw [ih]
    · exact ih.trans (by rw [methods_counted])

theorem counted_perm {a b : List Use} (h : a.Perm b) (d : Declaration) :
    counted a d = counted b d := by
  have huses : usesOf a d = usesOf b d := by
    funext name
    exact h.countP_eq _
  rw [counted_eq, counted_eq, huses]

theorem fst_flush (r : Registry) (uses : List Use) :
    (r.flush uses).1 = r.map fun e => (e.1, counted uses e.2) :=
  flush_fst r 0 uses

theorem useCount_flush (r : Registry) (uses : List Use) :
    (r.flush uses).1.useCount = r.useCount + (r.flush uses).2 :=
  useCount_foldl_mark uses (r, 0)

theorem flush_perm (r : Registry) {a b : List Use} (h : a.Perm b) : r.flush a = r.flush b := by
  have hregistry : (r.flush a).1 = (r.flush b).1 := by
    simp only [fst_flush, counted_perm h]
  have hgrowth := useCount_flush r a
  rw [hregistry, useCount_flush r b] at hgrowth
  exact Prod.ext hregistry (by omega)

theorem flush_append (r : Registry) (a b : List Use) :
    r.flush (a ++ b) =
      (((r.flush a).1.flush b).1, (r.flush a).2 + ((r.flush a).1.flush b).2) := by
  have hregistry : (r.flush (a ++ b)).1 = ((r.flush a).1.flush b).1 := by
    simp only [fst_flush, List.map_map, counted, List.foldl_append, Function.comp_def]
  have hwhole := useCount_flush r (a ++ b)
  have hfirst := useCount_flush r a
  have hsecond := useCount_flush (r.flush a).1 b
  rw [hregistry] at hwhole
  exact Prod.ext hregistry (by dsimp only; omega)

def Tallied (r : Registry) : Prop :=
  ∀ d ∈ r.declarations, ∀ m ∈ d.methods, m.isUsed = true ↔ 0 < m.uses

theorem Tallied.flush {r : Registry} (h : r.Tallied) (uses : List Use) :
    (r.flush uses).1.Tallied := by
  intro d hd m hm
  rw [fst_flush, declarations, List.map_map] at hd
  obtain ⟨e, he, rfl⟩ := List.mem_map.mp hd
  rw [Function.comp_apply, methods_counted] at hm
  exact Method.tallied_of_mem_recounted (h e.2 (List.mem_map_of_mem he)) hm

end Registry

namespace Gathering

inductive Step where
  | meet (s : Sighting)
  | flush

-- The second part holds the numbers that the flushes so far gave back.
def take (state : Gathering × List Nat) : Step → Gathering × List Nat
  | .meet s => (state.1.addUse s.use?, state.2)
  | .flush => (state.1.close, state.2 ++ [state.1.close.marked])

def takeAll (r : Registry) (steps : List Step) : Gathering × List Nat :=
  steps.foldl take ({ registry := r }, [])

theorem takeAll_concat (r : Registry) (steps : List Step) (next : Step) :
    takeAll r (steps ++ [next]) = take (takeAll r steps) next := by
  simp [takeAll]

def met (steps : List Step) : List Sighting :=
  steps.filterMap fun
    | .meet s => some s
    | .flush => none

-- What one more flush would leave in the registry, and the sum of all that was given back then.
def settled (state : Gathering × List Nat) : Registry × Nat :=
  ((state.1.registry.flush state.1.uses).1,
    state.2.sum + (state.1.registry.flush state.1.uses).2)

theorem settled_meet (state : Gathering × List Nat) (s : Sighting) :
    settled (take state (.meet s)) =
      (((settled state).1.flush s.use?.toList).1,
        (settled state).2 + ((settled state).1.flush s.use?.toList).2) := by
  simp only [settled, take, addUse, Registry.flush_append, Nat.add_assoc]

theorem take_flush (state : Gathering × List Nat) :
    ((take state .flush).1.registry, (take state .flush).2.sum) = settled state := by
  change ((state.1.registry.flush state.1.uses).1,
    (state.2 ++ [(state.1.registry.flush state.1.uses).2]).sum) = settled state
  simp [settled]

theorem settled_flush (state : Gathering × List Nat) :
    settled (take state .flush) = settled state := by
  change ((take state .flush).1.registry, (take state .flush).2.sum + 0) = settled state
  rw [Nat.add_zero, take_flush]

theorem settled_takeAll (r : Registry) (steps : List Step) :
    settled (takeAll r steps) = r.flush (buffered (met steps)) := by
  induction steps using List.reverseRecOn with
  | nil => rfl
  | append_singleton steps next ih =>
    rw [takeAll_concat]
    cases next with
    | meet s =>
      have hmet : met (steps ++ [.meet s]) = met steps ++ [s] := by simp [met]
      rw [settled_meet, ih, hmet, buffered_concat, Registry.flush_append]
    | flush =>
      have hmet : met (steps ++ [.flush]) = met steps := by simp [met]
      rw [settled_flush, ih, hmet]

end Gathering

namespace Registry

theorem uses_flush (r : Registry) (uses : List Use) (name : String) :
    (r.flush uses).1.map (fun e => (e.1, (e.2.method? name).map Method.uses)) =
      r.map fun e => (e.1, (e.2.method? name).map fun m => m.uses + usesOf uses e.2 name) := by
  rw [fst_flush, List.map_map]
  apply List.map_congr_left
  intro e _
  simp only [Function.comp_apply, method?_counted, Option.map_map]
  rfl

structure FlushesAddUp (r : Registry) : Prop where
  counts : ∀ (a : List Sighting) (name : String),
    (r.flush (buffered a)).1.map (fun e => (e.1, (e.2.method? name).map Method.uses)) =
      r.map fun e => (e.1, (e.2.method? name).map fun m =>
        m.uses + (buffered a).countP fun u => u.member = name && u.concerns e.2)
  reordered : ∀ a b : List Sighting, a.Perm b → r.flush (buffered a) = r.flush (buffered b)
  split : ∀ a b : List Sighting, r.flush (buffered (a ++ b)) =
    (((r.flush (buffered a)).1.flush (buffered b)).1,
      (r.flush (buffered a)).2 + ((r.flush (buffered a)).1.flush (buffered b)).2)
  interleaved : ∀ steps : List Gathering.Step,
    let state := Gathering.takeAll r (steps ++ [.flush])
    (state.1.registry, state.2.sum) = r.flush (buffered (Gathering.met steps)) ∧ state.1.uses = []
  growth : ∀ a : List Sighting,
    ((r.flush (buffered a)).1.declarations.map fun d => (d.methods.map (·.uses)).sum).sum =
      (r.declarations.map fun d => (d.methods.map (·.uses)).sum).sum + (r.flush (buffered a)).2
  nameless : ∀ (a b : List Sighting) (s : Sighting), ¬ (IsNamed s.object ∧ IsNamed s.member) →
    r.flush (buffered (a ++ s :: b)) = r.flush (buffered (a ++ b))
  empty : r.flush [] = (r, 0)
  tallied : r.Tallied → ∀ a : List Sighting, (r.flush (buffered a)).1.Tallied

theorem flushes_add_up (r : Registry) : r.FlushesAddUp where
  counts := fun a name => r.uses_flush (buffered a) name
  reordered := fun a b h => r.flush_perm (h.filterMap use?)
  split := by
    intro a b
    rw [buffered_append, flush_append]
  interleaved := by
    intro steps
    dsimp only
    rw [Gathering.takeAll_concat, Gathering.take_flush, Gathering.settled_takeAll]
    exact ⟨rfl, rfl⟩
  growth := fun a => r.useCount_flush (buffered a)
  nameless := by
    intro a b s hs
    have hs' : buffered (s :: b) = buffered b := List.filterMap_cons_none (use?_eq_none hs)
    rw [buffered_append, hs', buffered_append]
  empty := rfl
  tallied := fun h a => h.flush (buffered a)

end Registry

end DesignLint
