import DesignLint.Proofs.Gathering.Registry
import Mathlib.Data.List.Nodup

namespace DesignLint

namespace Gathering

variable {limit : Int} {file : String} {sites : List Site}

theorem find?_classDeclarations (hn : (sites.map Spot.address).Nodup) {s : Site}
    (hs : s ∈ sites) (hc : s.isClassLike = true) :
    (classDeclarations limit file sites).find? (fun d => d.site.address = s.address) =
      some (Declaration.ofClass limit file s) := by
  have hfind : (sites.filter Site.isClassLike).find? (fun t => t.address = s.address) =
      some s := by
    rw [List.find?_filter]
    induction sites with
    | nil => cases hs
    | cons t rest ih =>
      obtain ⟨ht, hrest⟩ := List.nodup_cons.mp hn
      rcases List.mem_cons.mp hs with rfl | hm
      · simp [hc]
      · have hne : t.address ≠ s.address := fun he =>
          ht (he ▸ List.mem_map_of_mem hm)
        rw [List.find?_cons_of_neg (by simp [hne])]
        exact ih hrest hm
  rw [classDeclarations, List.find?_map]
  change ((sites.filter Site.isClassLike).find? (fun t => t.address = s.address)).map _ = _
  rw [hfind]
  rfl

theorem find?_of_last {α : Type} {p q : α → Bool} {l : List α} {a : α}
    (h : l.find? q = some a) (hp : p a = true) : (l.filter p).find? q = some a := by
  obtain ⟨hq, before, after, rfl, hb⟩ := List.find?_eq_some_iff_append.mp h
  rw [List.find?_filter]
  refine List.find?_eq_some_iff_append.mpr ⟨by simp [hp, hq], before, after, rfl, ?_⟩
  intro b hbm
  simp [show q b = false by simpa using hb b hbm]

end Gathering

namespace Context

open Gathering

def registered (path : String) (limit : Int) (root : SyntaxTree) : List Declaration :=
  registrations limit (slashed path) (root.visited limit)

def uses (limit : Int) (root : SyntaxTree) : List Use :=
  (root.visited limit).filterMap Site.use?

section Collected

variable (path : String) (limit : Int) (root : SyntaxTree)

theorem collect_registry :
    (collect path limit root).registry =
      (Assoc.putAll Declaration.name (registered path limit root)).map
        fun e => (e.1, Registry.counted (uses limit root) e.2) := by
  obtain ⟨g, hg, hc⟩ := exists_gathered path limit root
  rw [hc]
  change (g.uses.foldl Registry.mark (g.registry, 0)).1 = _
  rw [Registry.flush_fst, hg.registry, hg.uses]
  rfl

theorem collect_inheritance :
    (collect path limit root).inheritance =
      recordAll (classDeclarations limit (slashed path) (root.visited limit)) := by
  obtain ⟨g, hg, hc⟩ := exists_gathered path limit root
  rw [hc]
  exact hg.inheritance

theorem collect_declared :
    (collect path limit root).gathered.declared =
      classDeclarations limit (slashed path) (root.visited limit) := by
  obtain ⟨g, hg, hc⟩ := exists_gathered path limit root
  rw [hc]
  exact hg.declared

theorem sites_class :
    (collect path limit root).sites [.classDecl, .interfaceDecl] =
      (root.visited limit).filter Site.isClassLike := by
  rw [sites_collect]
  refine List.filter_congr fun s _ => ?_
  simp [Site.isClassLike]

theorem get?_registry (name : String) :
    (collect path limit root).registry.get? name =
      ((registered path limit root).reverse.find? fun d => d.name = name).map
        (Registry.counted (uses limit root)) := by
  rw [collect_registry, Registry.get?, Assoc.get?_map, Assoc.get?_putAll]

theorem names_registry :
    (collect path limit root).registry.declarations.map (·.name) =
      ((registered path limit root).map (·.name)).eraseDups := by
  rw [← Assoc.keys_putAll, collect_registry, Registry.declarations, List.map_map, List.map_map,
    Assoc.keys]
  refine List.map_congr_left fun e he => ?_
  have hk : e.2.name = e.1 := Assoc.key_of_mem_putAll he
  exact (Registry.facts_counted (uses limit root) e.2).1.trans hk

variable {path limit root}

theorem mem_registered_of_find? {p : Declaration → Bool} {e : Declaration}
    (h : (registered path limit root).reverse.find? p = some e) :
    e ∈ registered path limit root :=
  List.mem_reverse.mp (List.mem_of_find?_eq_some h)

theorem last_of_mem_registry {d : Declaration}
    (h : d ∈ (collect path limit root).registry.declarations) :
    ∃ e, (registered path limit root).reverse.find? (fun x => x.name = e.name) = some e ∧
      d = Registry.counted (uses limit root) e := by
  rw [collect_registry, Registry.declarations, List.map_map] at h
  obtain ⟨⟨key, e⟩, he, rfl⟩ := List.mem_map.mp h
  have hk : e.name = key := Assoc.key_of_mem_putAll he
  have hg := Assoc.get?_of_mem (Assoc.nodup_keys_putAll _ _) he
  rw [Assoc.get?_putAll, ← hk] at hg
  exact ⟨e, hg, rfl⟩

theorem get?_of_mem_registry {d : Declaration}
    (h : d ∈ (collect path limit root).registry.declarations) :
    (collect path limit root).registry.get? d.name = some d := by
  obtain ⟨e, he, rfl⟩ := last_of_mem_registry h
  rw [get?_registry, (Registry.facts_counted (uses limit root) e).1, he]
  rfl

theorem mem_registry_of_get? {name : String} {d : Declaration}
    (h : (collect path limit root).registry.get? name = some d) :
    d ∈ (collect path limit root).registry.declarations ∧ d.name = name := by
  refine ⟨List.mem_map.mpr ⟨(name, d), Assoc.mem_of_get? h, rfl⟩, ?_⟩
  rw [get?_registry] at h
  obtain ⟨e, he, rfl⟩ := Option.map_eq_some_iff.mp h
  rw [(Registry.facts_counted (uses limit root) e).1]
  simpa using List.find?_some he

theorem uncounted_get?_registry (name : String) :
    ((collect path limit root).registry.get? name).map Declaration.uncounted =
      (registered path limit root).reverse.find? fun d => d.name = name := by
  rw [get?_registry, Option.map_map]
  cases h : (registered path limit root).reverse.find? fun d => d.name = name with
  | none => rfl
  | some d =>
    have hd := uncounted_of_mem_registrations (mem_registered_of_find? h)
    simp [Registry.uncounted_counted, hd]

theorem parentOf_of_mem_registry {d : Declaration}
    (h : d ∈ (collect path limit root).registry.declarations) (ho : d.origin ≠ .object) :
    (collect path limit root).inheritance.parentOf d.name = d.properSuperclass := by
  obtain ⟨e, he, rfl⟩ := last_of_mem_registry h
  obtain ⟨hn, -, hs, horigin⟩ := Registry.facts_counted (uses limit root) e
  rw [horigin] at ho
  have hclass : (classDeclarations limit (slashed path) (root.visited limit)).reverse.find?
      (fun x => x.name = e.name) = some e := by
    rw [← filter_registrations, ← List.filter_reverse]
    exact find?_of_last he (by simpa using ho)
  rw [collect_inheritance,
    parentOf_recordAll _ fun _ => name_ne_empty_of_mem_classDeclarations, hn, hclass]
  simp [Declaration.properSuperclass, hs]

theorem eq_ofClass_of_site {e : Declaration} (he : e ∈ registered path limit root) {s : Site}
    (hs : s ∈ root.visited limit) (hc : s.isClassLike = true)
    (ha : e.site.address = s.address) : e = Declaration.ofClass limit (slashed path) s := by
  obtain ⟨hmem, hkind⟩ := mem_registrations he
  have hsite : e.site = s :=
    List.inj_on_of_nodup_map (Tree.nodup_address_visited limit root) hmem hs ha
  rw [hsite] at hkind
  rcases hkind with ⟨-, h⟩ | ⟨h, -⟩
  · exact h
  · rw [hc] at h
    cases h

theorem uncounted_current {s : Site} (hs : s ∈ root.visited limit) (hc : s.isClassLike = true) :
    ((collect path limit root).current (Declaration.ofClass limit (slashed path) s)).uncounted =
      Declaration.ofClass limit (slashed path) s := by
  rw [current]
  split
  · next r hr =>
    split
    · next ha =>
      rw [get?_registry] at hr
      obtain ⟨e, he, rfl⟩ := Option.map_eq_some_iff.mp hr
      have hmem : e ∈ registered path limit root := mem_registered_of_find? he
      rw [(Registry.facts_counted (uses limit root) e).2.1] at ha
      rw [Registry.uncounted_counted, eq_ofClass_of_site hmem hs hc ha,
        Declaration.uncounted_ofClass]
    · exact Declaration.uncounted_ofClass limit (slashed path) s
  · exact Declaration.uncounted_ofClass limit (slashed path) s

theorem declarationAt?_of_visited {s : Site} (hs : s ∈ root.visited limit)
    (hc : s.isClassLike = true) :
    (collect path limit root).declarationAt? s =
      some ((collect path limit root).current (Declaration.ofClass limit (slashed path) s)) := by
  rw [declarationAt?, collect_declared,
    find?_classDeclarations (Tree.nodup_address_visited limit root) hs hc]
  rfl

theorem declarations_collect :
    (collect path limit root).declarations =
      ((root.visited limit).filter Site.isClassLike).map fun s =>
        (collect path limit root).current (Declaration.ofClass limit (slashed path) s) := by
  rw [declarations, sites_class, ← List.filterMap_eq_map]
  refine List.filterMap_congr fun s hs => ?_
  obtain ⟨hv, hc⟩ := List.mem_filter.mp hs
  exact declarationAt?_of_visited hv hc

theorem mem_declarations_of_mem_registry {d : Declaration}
    (h : d ∈ (collect path limit root).registry.declarations) (ho : d.origin ≠ .object) :
    d ∈ (collect path limit root).declarations := by
  obtain ⟨e, he, rfl⟩ := last_of_mem_registry h
  obtain ⟨hn, hsite, -, horigin⟩ := Registry.facts_counted (uses limit root) e
  obtain ⟨hv, ⟨hc, hclass⟩ | ⟨-, n, hobj⟩⟩ :=
    mem_registrations (mem_registered_of_find? he)
  · rw [declarations_collect]
    refine List.mem_map.mpr ⟨e.site, List.mem_filter.mpr ⟨hv, hc⟩, ?_⟩
    rw [← hclass, current, ← hn, get?_of_mem_registry h]
    simp [hsite]
  · rw [horigin, hobj] at ho
    exact absurd rfl ho

theorem form_of_mem_object {d : Declaration}
    (h : d ∈ (collect path limit root).registry.declarations) (ho : d.origin = .object)
    {m : Method} (hm : m ∈ d.methods) : m.form = .objectMethod := by
  obtain ⟨e, he, rfl⟩ := last_of_mem_registry h
  rw [(Registry.facts_counted (uses limit root) e).2.2.2] at ho
  obtain ⟨m', hm', hform, -⟩ := Declaration.exists_method_of_uncounted_eq
    (Registry.uncounted_counted (uses limit root) e) hm
  obtain ⟨-, ⟨-, hclass⟩ | ⟨-, n, hobj⟩⟩ :=
    mem_registrations (mem_registered_of_find? he)
  · rw [hclass] at ho
    exact absurd ho (Declaration.ofClass_origin_ne limit (slashed path) e.site)
  · rw [hobj] at hm'
    rw [hform]
    exact Declaration.form_of_mem_ofObject hm'

theorem exists_ofClass_of_mem_registry {d : Declaration}
    (h : d ∈ (collect path limit root).registry.declarations) (ho : d.origin ≠ .object) :
    ∃ s ∈ root.visited limit, d.uncounted = Declaration.ofClass limit (slashed path) s := by
  have hd := mem_declarations_of_mem_registry h ho
  rw [declarations_collect] at hd
  obtain ⟨s, hs, rfl⟩ := List.mem_map.mp hd
  obtain ⟨hv, hc⟩ := List.mem_filter.mp hs
  exact ⟨s, hv, uncounted_current hv hc⟩

end Collected

structure Consistent (limit : Int) (visited : List Site) (c : Context) : Prop where
  registry : ∀ name : String, (c.registry.get? name).map Declaration.uncounted =
    (registrations limit c.path visited).reverse.find? fun d => d.name = name
  order : c.registry.declarations.map (·.name) =
    ((registrations limit c.path visited).map (·.name)).eraseDups
  sites : c.sites [.classDecl, .interfaceDecl] = visited.filter Site.isClassLike
  declarations : c.declarations.map Declaration.uncounted =
    (visited.filter Site.isClassLike).map (Declaration.ofClass limit c.path)
  declarationAt : ∀ s ∈ c.sites [.classDecl, .interfaceDecl],
    ∃ d, c.declarationAt? s = some d ∧ d.uncounted = Declaration.ofClass limit c.path s
  parents : ∀ d ∈ c.registry.declarations, d.origin = .classDecl ∨ d.origin = .interfaceDecl →
    c.inheritance.parentOf d.name = d.properSuperclass

theorem collect_consistent (path : String) (limit : Int) (root : SyntaxTree) :
    Consistent limit (root.visited limit) (collect path limit root) where
  registry := uncounted_get?_registry
  order := names_registry path limit root
  sites := sites_class path limit root
  declarations := by
    rw [declarations_collect, List.map_map]
    refine List.map_congr_left fun s hs => ?_
    obtain ⟨hv, hc⟩ := List.mem_filter.mp hs
    exact uncounted_current hv hc
  declarationAt := by
    intro s hs
    rw [sites_class] at hs
    obtain ⟨hv, hc⟩ := List.mem_filter.mp hs
    exact ⟨_, declarationAt?_of_visited hv hc, uncounted_current hv hc⟩
  parents := by
    intro d hd ho
    refine parentOf_of_mem_registry hd ?_
    rintro h
    simp [h] at ho

end Context

end DesignLint
