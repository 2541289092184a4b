import DesignLint.Proofs.Gathering.Consistency

namespace DesignLint

namespace Site

def IsFunctionMember (member : Site) : Prop :=
  Site.kind member = .method ∨
    Site.kind member = .pair ∧
      ∃ value, member.code.link .value = some value ∧ value.kind ∈ [Kind.function, Kind.arrow]

def ServesAsInterface (s : Site) : Prop :=
  Site.kind s = .object ∧
    (∃ p : Site, s.parent? = some p ∧ Site.kind p ∈ [Kind.declarator, Kind.assignment, Kind.pair]) ∧
    ∃ members : List Site, members.Sublist (Spot.children s) ∧ members.length = 3 ∧
      ∀ member ∈ members, IsFunctionMember member

theorem isObjectMethod_iff (member : Site) :
    Method.isObjectMethod member = true ↔ IsFunctionMember member := by
  rw [Method.isObjectMethod, IsFunctionMember]
  split
  · next h => simp [h, Option.any_eq_true]
  · next h => simp [h]
  · next hpair hmethod =>
    have hp : Site.kind member ≠ .pair := hpair
    have hm : Site.kind member ≠ .method := hmethod
    simp [hp, hm]

theorem three_le_length_objectMethods_iff (s : Site) :
    3 ≤ (Declaration.objectMethods s).length ↔
      ∃ members : List Site, members.Sublist (Spot.children s) ∧ members.length = 3 ∧
        ∀ member ∈ members, IsFunctionMember member := by
  constructor
  · intro h
    have htake := List.take_sublist 3 (Declaration.objectMethods s)
    refine ⟨_, htake.trans List.filter_sublist, List.length_take_of_le h, ?_⟩
    intro member hm
    exact (isObjectMethod_iff member).mp (List.mem_filter.mp (htake.subset hm)).2
  · rintro ⟨members, hsub, hlength, hall⟩
    have hfilter : members.filter Method.isObjectMethod = members :=
      List.filter_eq_self.mpr fun member hm => (isObjectMethod_iff member).mpr (hall member hm)
    have hle := (hsub.filter Method.isObjectMethod).length_le
    rwa [hfilter, hlength] at hle

theorem isNumbered_iff (s : Site) : s.isNumbered = true ↔ s.ServesAsInterface := by
  rw [isNumbered, Declaration.isObjectInterface, ServesAsInterface,
    ← three_le_length_objectMethods_iff]
  cases s.parent? with
  | none => simp
  | some p => simp [or_assoc]

theorem kind_of_isNumbered {s : Site} (h : s.isNumbered = true) : s.kind = .object :=
  ((isNumbered_iff s).mp h).1

theorem not_isClassLike_of_kind {s : Site} (h : s.kind = .object) : s.isClassLike = false := by
  simp [isClassLike, h]

end Site

namespace Declaration

-- What follows the last underscore, read backwards.
theorem takeWhile_reverse_of_not_mem {c : Char} (before : List Char) {after : List Char}
    (h : c ∉ after) : (before ++ c :: after).reverse.takeWhile (· != c) = after.reverse := by
  have hafter : ∀ x ∈ after.reverse, (x != c) = true := by
    intro x hx
    rw [bne_iff_ne]
    rintro rfl
    exact h (List.mem_reverse.mp hx)
  rw [List.reverse_append, List.reverse_cons, List.append_assoc,
    List.takeWhile_append_of_pos hafter]
  simp

theorem number_of_objectName {a b : String} {m n : Nat} (h : objectName a m = objectName b n) :
    m = n := by
  have htexts : a.toList ++ '_' :: Nat.toDigits 10 m = b.toList ++ '_' :: Nat.toDigits 10 n := by
    simpa [objectName] using congrArg String.toList h
  have hdigits : Nat.toDigits 10 m = Nat.toDigits 10 n := by
    have hlast := congrArg (fun l => l.reverse.takeWhile (· != '_')) htexts
    simp only [takeWhile_reverse_of_not_mem _ Nat.underscore_not_in_toDigits] at hlast
    exact List.reverse_injective hlast
  calc
    m = Nat.ofDigitChars 10 (Nat.toDigits 10 m) 0 := Nat.ofDigitChars_ten_toDigits.symm
    _ = Nat.ofDigitChars 10 (Nat.toDigits 10 n) 0 := by rw [hdigits]
    _ = n := Nat.ofDigitChars_ten_toDigits

theorem objectName_eq (context : String) (number : Nat) :
    objectName context number = context ++ "_" ++ number.repr := by
  rw [objectName, Nat.repr_eq_ofList_toDigits]

end Declaration

namespace Gathering

variable (limit : Int) (file : String) (sites : List Site)

def after : Gathering :=
  sites.foldl ((walker limit file).dispatch Site.kind) {}

def objectRecords : List Declaration :=
  (sites.filter Site.isNumbered).mapIdx fun k s => Declaration.ofObject limit file (k + 1) s

theorem after_concat (s : Site) :
    after limit file (sites ++ [s]) = step limit file (after limit file sites) s := by
  rw [after, List.foldl_append, List.foldl_cons, List.foldl_nil, dispatch_walker, ← after]

theorem gathered_after : Gathered limit file sites (after limit file sites) := by
  induction sites using List.reverseRecOn with
  | nil => exact gathered_empty limit file
  | append_singleton sites s ih =>
    rw [after_concat]
    exact gathered_step ih s

theorem objectRecords_concat (s : Site) :
    objectRecords limit file (sites ++ [s]) = objectRecords limit file sites ++
      if s.isNumbered then
        [Declaration.ofObject limit file (sites.countP Site.isNumbered + 1) s] else [] := by
  rw [objectRecords, List.filter_append]
  cases h : s.isNumbered with
  | true =>
    rw [List.filter_cons_of_pos h, List.filter_nil, List.mapIdx_concat,
      ← List.countP_eq_length_filter]
    rfl
  | false =>
    rw [List.filter_cons_of_neg (by simp [h]), List.filter_nil, List.append_nil]
    simp [objectRecords]

theorem registration?_of_isNumbered {s : Site} (h : s.isNumbered = true) (objects : Nat) :
    registration? limit file objects s =
      some (Declaration.ofObject limit file (objects + 1) s) := by
  rw [registration?, if_neg (by simp [Site.not_isClassLike_of_kind (Site.kind_of_isNumbered h)]),
    if_pos h]

theorem filter_object_registrations :
    (registrations limit file sites).filter (fun d => d.origin = .object) =
      objectRecords limit file sites := by
  induction sites using List.reverseRecOn with
  | nil => rfl
  | append_singleton sites s ih =>
    rw [registrations_concat, List.filter_append, ih, objectRecords_concat]
    cases hn : s.isNumbered with
    | true =>
      rw [registration?_of_isNumbered limit file hn]
      simp [Declaration.ofObject]
    | false =>
      cases hc : s.isClassLike with
      | true => simp [registration?, hc, Declaration.ofClass_origin_ne limit file s]
      | false => simp [registration?, hc, hn]

theorem names_objectRecords :
    (objectRecords limit file sites).map (·.name) =
      (sites.filter Site.isNumbered).mapIdx fun k s =>
        Declaration.objectContext s ++ "_" ++ (k + 1).repr := by
  refine List.ext_getElem (by simp [objectRecords]) fun k _ _ => ?_
  simp only [objectRecords, List.getElem_map, List.getElem_mapIdx, Declaration.ofObject,
    Declaration.objectName_eq]

theorem nodup_names_objectRecords : ((objectRecords limit file sites).map (·.name)).Nodup := by
  rw [List.Nodup, List.pairwise_iff_getElem]
  intro i j hi hj hij hname
  simp only [objectRecords, List.getElem_map, List.getElem_mapIdx] at hname
  have hnumber := Declaration.number_of_objectName hname
  omega

theorem getElem?_objectRecords {before rest : List Site} {s : Site} (h : s.isNumbered = true) :
    (objectRecords limit file (before ++ s :: rest))[before.countP Site.isNumbered]? =
      some (Declaration.ofObject limit file (before.countP Site.isNumbered + 1) s) := by
  rw [objectRecords, List.filter_append, List.filter_cons_of_pos h, List.getElem?_mapIdx,
    List.countP_eq_length_filter]
  simp

end Gathering

namespace Context

open Gathering

structure NumbersObjects (limit : Int) (visited : List Site) (c : Context) : Prop where
  qualifying : ∀ s ∈ visited, s.isNumbered = true ↔ s.ServesAsInterface
  run : c.gathered = (after limit c.path visited).close
  numbered : ∀ before s rest, visited = before ++ s :: rest → s.isNumbered = true →
    ∃ d, (objectRecords limit c.path visited)[before.countP Site.isNumbered]? = some d ∧
      d.site = s ∧
      (after limit c.path (before ++ [s])).registry =
        (after limit c.path before).registry.register d ∧
      (after limit c.path (before ++ [s])).objects = before.countP Site.isNumbered + 1
  skipped : ∀ before s rest, visited = before ++ s :: rest → s.kind = .object →
    s.isNumbered = false →
      (after limit c.path (before ++ [s])).registry = (after limit c.path before).registry ∧
      (after limit c.path (before ++ [s])).objects = (after limit c.path before).objects
  names : (objectRecords limit c.path visited).map (·.name) =
    (visited.filter Site.isNumbered).mapIdx fun k s =>
      Declaration.objectContext s ++ "_" ++ (k + 1).repr
  distinct : ((objectRecords limit c.path visited).map (·.name)).Nodup
  stands : ∀ d ∈ objectRecords limit c.path visited,
    ∃ e, c.registry.get? d.name = some e ∧ (e.uncounted = d ∨ e.origin ≠ .object)
  onlyThese : ∀ d ∈ c.registry.declarations, d.origin = .object →
    d.uncounted ∈ objectRecords limit c.path visited

section Collected

variable {path : String} {limit : Int} {root : SyntaxTree}

theorem mem_objectRecords_iff {d : Declaration} :
    d ∈ objectRecords limit (slashed path) (root.visited limit) ↔
      d ∈ registered path limit root ∧ d.origin = .object := by
  rw [← filter_object_registrations, List.mem_filter, decide_eq_true_iff]
  rfl

theorem stands_of_mem_objectRecords {d : Declaration}
    (h : d ∈ objectRecords limit (slashed path) (root.visited limit)) :
    ∃ e, (collect path limit root).registry.get? d.name = some e ∧
      (e.uncounted = d ∨ e.origin ≠ .object) := by
  obtain ⟨hmem, -⟩ := mem_objectRecords_iff.mp h
  have hsome : ((registered path limit root).reverse.find? fun x => x.name = d.name).isSome := by
    rw [List.find?_isSome]
    exact ⟨d, List.mem_reverse.mpr hmem, by simp⟩
  obtain ⟨last, hlast⟩ := Option.isSome_iff_exists.mp hsome
  refine ⟨Registry.counted (uses limit root) last, by rw [get?_registry, hlast]; rfl, ?_⟩
  rw [(Registry.facts_counted (uses limit root) last).2.2.2, Registry.uncounted_counted]
  by_cases ho : last.origin = .object
  · have hrecord := mem_objectRecords_iff.mpr ⟨mem_registered_of_find? hlast, ho⟩
    have hname : last.name = d.name := by simpa using List.find?_some hlast
    have heq : last = d :=
      List.inj_on_of_nodup_map (nodup_names_objectRecords _ _ _) hrecord h hname
    rw [heq]
    exact .inl (uncounted_of_mem_registrations hmem)
  · exact .inr ho

theorem mem_objectRecords_of_mem_registry {d : Declaration}
    (h : d ∈ (collect path limit root).registry.declarations) (ho : d.origin = .object) :
    d.uncounted ∈ objectRecords limit (slashed path) (root.visited limit) := by
  obtain ⟨e, he, rfl⟩ := last_of_mem_registry h
  have hmem := mem_registered_of_find? he
  rw [(Registry.facts_counted (uses limit root) e).2.2.2] at ho
  rw [Registry.uncounted_counted, uncounted_of_mem_registrations hmem]
  exact mem_objectRecords_iff.mpr ⟨hmem, ho⟩

end Collected

theorem collect_numbersObjects (path : String) (limit : Int) (root : SyntaxTree) :
    NumbersObjects limit (root.visited limit) (collect path limit root) where
  qualifying s _ := s.isNumbered_iff
  run := by
    rw [after, ← Tree.walk_spots]
    rfl
  numbered := by
    intro before s rest hsplit hn
    refine ⟨Declaration.ofObject limit (slashed path) (before.countP Site.isNumbered + 1) s, ?_,
      rfl, ?_, ?_⟩
    · rw [hsplit]
      exact getElem?_objectRecords limit (slashed path) hn
    · change (after limit (slashed path) (before ++ [s])).registry = _
      rw [after_concat, step, registration?_of_isNumbered limit (slashed path) hn,
        (gathered_after limit (slashed path) before).objects]
      rfl
    · rw [(gathered_after limit _ (before ++ [s])).objects, List.countP_append]
      simp [hn]
  skipped := by
    intro before s rest _ hk hn
    have hc := Site.not_isClassLike_of_kind hk
    rw [after_concat]
    simp [step, registration?, hc, hn]
  names := names_objectRecords _ _ _
  distinct := nodup_names_objectRecords _ _ _
  stands _ := stands_of_mem_objectRecords
  onlyThese _ := mem_objectRecords_of_mem_registry

end Context

end DesignLint
