import DesignLint.Proofs.Declaration.Usage
import DesignLint.Proofs.Gathering.Consistency
import Mathlib.Data.List.Infix

namespace DesignLint

def SyntaxTree.memberNames? (t : SyntaxTree) : Option (String × String) := do
  let object ← t.link .object
  let property ← t.link .property
  if object.kind = .identifier ∧ object.label.type ≠ "this" then
    return (← object.properName, ← property.properName)
  else none

namespace Declaration

def isMeantBy (d : Declaration) (object : String) : Bool :=
  object = d.name ||
    (d.isInterface && decide (Text.lower d.name.toList <:+: Text.lower object.toList))

def isReadAt (d : Declaration) (method : String) (s : Site) : Bool :=
  s.kind = .member && s.code.memberNames? = some (d.name, method)

def isCalledAt (d : Declaration) (method : String) (s : Site) : Bool :=
  s.kind = .call && (s.code.link .callee).any fun callee =>
    callee.kind = .member && callee.memberNames?.any fun names =>
      names.2 = method && d.isMeantBy names.1

end Declaration

namespace Use

theorem of?_names (make : String → String → Use) (t : SyntaxTree) :
    of? make (names t).1 (names t).2 = t.memberNames?.map fun n => make n.1 n.2 := by
  rw [names, SyntaxTree.memberNames?]
  cases t.link .object with
  | none => rfl
  | some object =>
    cases t.link .property with
    | none => rfl
    | some property =>
      by_cases h : object.kind = .identifier ∧ object.label.type ≠ "this"
      · cases ho : object.name with
        | none => simp [h, ho, of?, SyntaxTree.properName]
        | some o =>
          cases hp : property.name with
          | none => simp [h, ho, hp, of?, SyntaxTree.properName]
          | some p =>
            by_cases hoe : o = "" <;> by_cases hpe : p = "" <;>
              simp [h, ho, hp, hoe, hpe, of?, SyntaxTree.properName, Option.filter]
      · simp [h, of?]

theorem concerns_access (object member : String) (d : Declaration) :
    (access object member).concerns d = decide (object = d.name) := by
  simp [concerns, Use.object, eq_comm]

theorem concerns_call (object member : String) (d : Declaration) :
    (call object member).concerns d = d.isMeantBy object := by
  have hinfix : Text.occurs (Text.lower d.name.toList) (Text.lower object.toList) =
      decide (Text.lower d.name.toList <:+: Text.lower object.toList) := by
    rw [Bool.eq_iff_iff, Text.occurs_iff, decide_eq_true_eq]
    simp only [List.IsInfix, eq_comm]
  simp [concerns, Use.object, Declaration.isMeantBy, hinfix, eq_comm]

end Use

namespace Registry

theorem usesOf_site (d : Declaration) (name : String) (s : Site) :
    usesOf s.use?.toList d name =
      (d.isReadAt name s).toNat + (d.isCalledAt name s).toNat := by
  rw [usesOf, Declaration.isReadAt, Declaration.isCalledAt, Site.use?]
  split
  · next hk =>
    rw [hk, Use.ofCall?]
    cases s.code.link .callee with
    | none => rfl
    | some callee =>
      dsimp only [Option.any_some]
      by_cases hm : callee.kind = .member
      · rw [if_pos hm, Use.of?_names]
        cases callee.memberNames? with
        | none => simp
        | some n =>
          cases hn : d.isMeantBy n.1 <;> by_cases hname : n.2 = name <;>
            simp [hm, hn, hname, Use.member, Use.concerns_call]
      · simp [hm]
  · next hk =>
    rw [hk, Use.ofMember?, Use.of?_names]
    cases s.code.memberNames? with
    | none => simp
    | some n =>
      obtain ⟨object, member⟩ := n
      by_cases ho : object = d.name <;> by_cases hm : member = name <;>
        simp [Use.member, Use.concerns_access, ho, hm]
  · next hc hm =>
    have hcall : decide (s.kind = .call) = false := decide_eq_false hc
    have hmember : decide (s.kind = .member) = false := decide_eq_false hm
    simp [hcall, hmember]

theorem usesOf_filterMap (sites : List Site) (d : Declaration) (name : String) :
    usesOf (sites.filterMap Site.use?) d name =
      sites.countP (d.isReadAt name) + sites.countP (d.isCalledAt name) := by
  induction sites with
  | nil => rfl
  | cons s rest ih =>
    have hs := usesOf_site d name s
    have happend (a b : List Use) : usesOf (a ++ b) d name = usesOf a d name + usesOf b d name :=
      List.countP_append
    have hcons : (s :: rest).filterMap Site.use? = s.use?.toList ++ rest.filterMap Site.use? := by
      cases h : s.use? <;> simp [h]
    rw [hcons, happend, ih, hs, List.countP_cons, List.countP_cons]
    cases d.isReadAt name s <;> cases d.isCalledAt name s <;> simp <;> omega

end Registry

namespace Context

open Gathering

structure CountsUses (visited : List Site) (c : Context) : Prop where
  first : ∀ d ∈ c.registry.declarations, ∀ name m, d.method? name = some m →
    m.uses = visited.countP (d.isReadAt name) + visited.countP (d.isCalledAt name)
  later : ∀ d ∈ c.registry.declarations, ∀ before m after, d.methods = before ++ m :: after →
    (∃ b ∈ before, b.name = m.name) → m.uses = 0
  shadowed : ∀ d ∈ c.declarations, d ∉ c.registry.declarations → ∀ m ∈ d.methods, m.uses = 0
  isUsed : ∀ d, d ∈ c.registry.declarations ∨ d ∈ c.declarations → ∀ m ∈ d.methods,
    m.isUsed = true ↔ 0 < m.uses
  total : (c.registry.declarations.map fun d => (d.methods.map (·.uses)).sum).sum =
    c.gathered.marked

section Counted

variable {path : String} {limit : Int} {root : SyntaxTree}

theorem exists_uncounted_of_mem_registry {d : Declaration}
    (h : d ∈ (collect path limit root).registry.declarations) :
    ∃ e, e.uncounted = e ∧ d = Registry.counted (uses limit root) e := by
  obtain ⟨e, he, hd⟩ := last_of_mem_registry h
  exact ⟨e, uncounted_of_mem_registrations (mem_registered_of_find? he), hd⟩

theorem mem_registry_or_uncounted {d : Declaration}
    (h : d ∈ (collect path limit root).declarations) :
    d ∈ (collect path limit root).registry.declarations ∨ d.uncounted = d := by
  rw [declarations_collect] at h
  obtain ⟨s, -, rfl⟩ := List.mem_map.mp h
  rw [current]
  split
  · next r hr =>
    split
    · exact .inl (mem_registry_of_get? hr).1
    · exact .inr (Declaration.uncounted_ofClass limit (slashed path) s)
  · exact .inr (Declaration.uncounted_ofClass limit (slashed path) s)

theorem tallied_of_mem_registry {d : Declaration}
    (h : d ∈ (collect path limit root).registry.declarations) : ∀ m ∈ d.methods, m.Tallied := by
  obtain ⟨e, he, rfl⟩ := exists_uncounted_of_mem_registry h
  intro m hm
  rw [Registry.methods_counted] at hm
  exact Method.tallied_of_mem_recounted
    (fun x hx => (Method.tallied_of_uncounted (e.uncounted_of_mem he hx)).1) hm

theorem useCount_collect :
    (collect path limit root).registry.useCount = (collect path limit root).gathered.marked := by
  obtain ⟨g, hg, hc⟩ := exists_gathered path limit root
  have hzero : g.registry.useCount = 0 := by
    refine List.sum_eq_zero fun n hn => ?_
    obtain ⟨d, hd, rfl⟩ := List.mem_map.mp hn
    obtain ⟨e, he, rfl⟩ := List.mem_map.mp hd
    rw [hg.registry] at he
    have hmem := Assoc.mem_of_mem_putAll he
    exact Declaration.useCount_of_uncounted (uncounted_of_mem_registrations hmem)
  have hflush := Registry.useCount_foldl_mark g.uses (g.registry, 0)
  rw [hc]
  change (g.uses.foldl Registry.mark (g.registry, 0)).1.useCount =
    (g.uses.foldl Registry.mark (g.registry, 0)).2
  rwa [hzero, Nat.zero_add] at hflush

end Counted

theorem collect_countsUses (path : String) (limit : Int) (root : SyntaxTree) :
    CountsUses (root.visited limit) (collect path limit root) where
  first := by
    intro d hd name m hm
    obtain ⟨e, he, rfl⟩ := exists_uncounted_of_mem_registry hd
    rw [Registry.method?_counted] at hm
    obtain ⟨x, hx, rfl⟩ := Option.map_eq_some_iff.mp hm
    have hzero : x.uses = 0 :=
      (Method.tallied_of_uncounted (e.uncounted_of_mem he (List.mem_of_find?_eq_some hx))).2
    have hcount : Registry.usesOf (uses limit root) e name = _ :=
      Registry.usesOf_counted (uses limit root) (uses limit root) e name ▸
        Registry.usesOf_filterMap (root.visited limit) _ name
    rw [← hcount]
    simp [Method.marked, hzero]
  later := by
    intro d hd before m after hsplit hrepeated
    obtain ⟨e, he, rfl⟩ := exists_uncounted_of_mem_registry hd
    rw [Registry.methods_counted] at hsplit
    exact Method.uses_of_repeated
      (fun x hx => (Method.tallied_of_uncounted (e.uncounted_of_mem he hx)).2) hsplit hrepeated
  shadowed := by
    intro d hd hout m hm
    have hu : d.uncounted = d := (mem_registry_or_uncounted hd).resolve_left hout
    exact (Method.tallied_of_uncounted (d.uncounted_of_mem hu hm)).2
  isUsed := by
    intro d hd m hm
    have hd' : d ∈ (collect path limit root).registry.declarations ∨ d.uncounted = d := by
      rcases hd with h | h
      · exact .inl h
      · exact mem_registry_or_uncounted h
    rcases hd' with h | h
    · exact tallied_of_mem_registry h m hm
    · exact (Method.tallied_of_uncounted (d.uncounted_of_mem h hm)).1
  total := useCount_collect

end Context

end DesignLint
