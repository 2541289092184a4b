import DesignLint.Proofs.Gathering.Consistency
import DesignLint.Proofs.Tree.Ways

namespace DesignLint

namespace Site

variable {P : Site → Prop} {s u : Site}

def PassesDown (P : Site → Prop) : Prop :=
  ∀ {s u : Site} {path : List Nat}, P s → s.follow path = some u → P u

theorem PassesDown.link (hP : PassesDown P) (hs : P s) {role : Role}
    (hu : s.link role = some u) : P u := by
  obtain ⟨path, -, hfollow⟩ := Option.bind_eq_some_iff.mp hu
  exact hP hs hfollow

theorem PassesDown.child (hP : PassesDown P) (hs : P s) (hu : u ∈ Spot.children s) : P u := by
  obtain ⟨i, hi, rfl⟩ := List.mem_mapIdx.mp hu
  have hfollow : s.follow [i] = some ⟨s.tree.children[i], s.tree :: s.above, i :: s.address⟩ := by
    simp [Spot.follow, Spot.child?, hi]
  exact hP hs hfollow

theorem PassesDown.getD_follow (hP : PassesDown P) (hs : P s) (path : List Nat) :
    P ((s.follow path).getD s) := by
  cases hu : s.follow path with
  | none => exact hs
  | some u => exact hP hs hu

theorem PassesDown.getD_link (hP : PassesDown P) (hs : P s) (role : Role) :
    P ((s.link role).getD s) := by
  cases hu : s.link role with
  | none => exact hs
  | some u => exact hP.link hs hu

def LiesIn (root : SyntaxTree) (s : Site) : Prop :=
  s.tree.preorder ⊆ root.preorder

theorem passesDown_liesIn (root : SyntaxTree) : PassesDown (LiesIn root) :=
  fun hs hu => List.Subset.trans (Tree.preorder_subset_of_follow hu) hs

theorem LiesIn.label_mem {root : SyntaxTree} (h : LiesIn root s) : s.label ∈ root.preorder :=
  h (Tree.label_mem_preorder s.tree)

end Site

open Site (PassesDown)

variable {P : Site → Prop}

namespace Declaration

variable {d e : Declaration}

structure AllSites (P : Site → Prop) (d : Declaration) : Prop where
  site : P d.site
  methods : ∀ m ∈ d.methods, P m.site

theorem AllSites.of_uncounted_eq (he : e.AllSites P) (h : d.uncounted = e.uncounted) :
    d.AllSites P where
  site := by
    rw [(facts_of_uncounted_eq h).2.1]
    exact he.site
  methods := by
    intro m hm
    obtain ⟨m', hm', -, hsite⟩ := exists_method_of_uncounted_eq h hm
    rw [hsite]
    exact he.methods m' hm'

theorem allSites_ofClass (hP : PassesDown P) {s : Site} (hs : P s) (limit : Int) (file : String) :
    (ofClass limit file s).AllSites P where
  site := hs
  methods := by
    intro m hm
    obtain ⟨member, hmember, h⟩ := List.mem_filterMap.mp hm
    obtain ⟨name, function, form, rfl⟩ := Method.exists_profile_of_ofClassMember? h
    cases hb : s.link .body with
    | none => simp [hb] at hmember
    | some body =>
      rw [hb] at hmember
      exact hP.child (hP.link hs hb) hmember

theorem allSites_ofObject (hP : PassesDown P) {s : Site} (hs : P s) (limit : Int) (file : String)
    (number : Nat) : (ofObject limit file number s).AllSites P where
  site := hs
  methods := by
    intro m hm
    obtain ⟨member, hmember, h⟩ := List.mem_filterMap.mp hm
    obtain ⟨name, function, rfl⟩ := Method.exists_profile_of_ofObjectMember? h
    exact hP.child hs (List.mem_of_mem_filter hmember)

end Declaration

namespace Context

structure AllSites (P : Site → Prop) (c : Context) : Prop where
  sites : ∀ kinds : List Kind, ∀ s ∈ c.sites kinds, P s
  registry : ∀ d ∈ c.registry.declarations, d.AllSites P
  declarations : ∀ d ∈ c.declarations, d.AllSites P
  declarationAt : ∀ {s d}, c.declarationAt? s = some d → d.AllSites P

section Collected

variable {path : String} {limit : Int} {root : SyntaxTree}

theorem visited_of_mem_sites {kinds : List Kind} {s : Site}
    (h : s ∈ (collect path limit root).sites kinds) : s ∈ root.visited limit := by
  match kinds with
  | [] => simp [sites, SiteIndex.ofKinds] at h
  | [kind] =>
    rw [sites_collect_single] at h
    exact List.mem_of_mem_filter h
  | first :: second :: rest =>
    rw [sites_collect] at h
    exact List.mem_of_mem_filter h

variable (hP : PassesDown P) (hvisited : ∀ s ∈ root.visited limit, P s)
include hP hvisited

theorem allSites_of_mem_registry {d : Declaration}
    (h : d ∈ (collect path limit root).registry.declarations) : d.AllSites P := by
  obtain ⟨e, he, rfl⟩ := last_of_mem_registry h
  obtain ⟨hmem, hmade⟩ := Gathering.mem_registrations (mem_registered_of_find? he)
  have hsite := hvisited e.site hmem
  refine Declaration.AllSites.of_uncounted_eq ?_ (Registry.uncounted_counted (uses limit root) e)
  rcases hmade with ⟨-, hclass⟩ | ⟨-, n, hobject⟩
  · rw [hclass]
    exact Declaration.allSites_ofClass hP hsite limit _
  · rw [hobject]
    exact Declaration.allSites_ofObject hP hsite limit _ n

theorem allSites_current {d : Declaration} (hd : d.AllSites P) :
    ((collect path limit root).current d).AllSites P := by
  rw [current]
  split
  · next e he =>
    split
    · exact allSites_of_mem_registry hP hvisited (mem_registry_of_get? he).1
    · exact hd
  · exact hd

theorem allSites_of_declarationAt? {s : Site} {d : Declaration}
    (h : (collect path limit root).declarationAt? s = some d) : d.AllSites P := by
  obtain ⟨e, he, rfl⟩ := Option.map_eq_some_iff.mp h
  have hmem := List.mem_of_find?_eq_some he
  rw [collect_declared] at hmem
  obtain ⟨site, hsite, rfl⟩ := List.mem_map.mp hmem
  have hmade := hvisited site (List.mem_of_mem_filter hsite)
  exact allSites_current hP hvisited (Declaration.allSites_ofClass hP hmade limit _)

theorem allSites_collect (path : String) : (collect path limit root).AllSites P where
  sites _ s hs := hvisited s (visited_of_mem_sites hs)
  registry _ hd := allSites_of_mem_registry hP hvisited hd
  declarations _ hd := by
    obtain ⟨s, -, hs⟩ := List.mem_filterMap.mp hd
    exact allSites_of_declarationAt? hP hvisited hs
  declarationAt := allSites_of_declarationAt? hP hvisited

end Collected

theorem collect_liesIn (path : String) (limit : Int) (root : SyntaxTree) :
    (collect path limit root).AllSites (Site.LiesIn root) :=
  allSites_collect (Site.passesDown_liesIn root) (fun _ => Tree.preorder_subset_of_visited) path

end Context

end DesignLint
