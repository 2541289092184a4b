import DesignLint.Proofs.Gathering.Run

namespace DesignLint

namespace Method

def uncounted (m : Method) : Method := { m with isUsed := false, uses := 0 }

theorem exists_profile_of_ofMember? {limit : Int} {form : MethodForm} {member : Site} {m : Method}
    (h : ofMember? limit form member = some m) :
    ∃ name function, m = profile limit name member function form := by
  obtain ⟨name, -, rfl⟩ := Option.map_eq_some_iff.mp h
  exact ⟨name, _, rfl⟩

theorem exists_profile_of_ofClassMember? {limit : Int} {member : Site} {m : Method}
    (h : ofClassMember? limit member = some m) :
    ∃ name function form, m = profile limit name member function form := by
  have ofMember {form : MethodForm} (h : ofMember? limit form member = some m) :
      ∃ name function form, m = profile limit name member function form := by
    obtain ⟨name, function, hm⟩ := exists_profile_of_ofMember? h
    exact ⟨name, function, form, hm⟩
  unfold ofClassMember? at h
  split at h
  · exact ofMember h
  · exact ofMember h
  · split at h
    · exact ofMember h
    · cases h
  · cases h

theorem exists_profile_of_ofObjectMember? {limit : Int} {member : Site} {m : Method}
    (h : ofObjectMember? limit member = some m) :
    ∃ name function, m = profile limit name member function .objectMethod := by
  unfold ofObjectMember? at h
  split at h
  · split at h
    · next key value _ _ =>
      split at h
      · cases h
      · exact ⟨key, value, (Option.some.inj h).symm⟩
    · cases h
  · exact exists_profile_of_ofMember? h

end Method

namespace Declaration

def uncounted (d : Declaration) : Declaration :=
  { d with methods := d.methods.map Method.uncounted }

theorem facts_of_uncounted_eq {d e : Declaration} (h : d.uncounted = e.uncounted) :
    d.name = e.name ∧ d.site = e.site ∧ d.superclass = e.superclass ∧ d.origin = e.origin := by
  have hn : d.uncounted.name = e.uncounted.name := by rw [h]
  have hs : d.uncounted.site = e.uncounted.site := by rw [h]
  have hp : d.uncounted.superclass = e.uncounted.superclass := by rw [h]
  have ho : d.uncounted.origin = e.uncounted.origin := by rw [h]
  exact ⟨hn, hs, hp, ho⟩

theorem exists_method_of_uncounted_eq {d e : Declaration} (h : d.uncounted = e.uncounted)
    {m : Method} (hm : m ∈ d.methods) :
    ∃ m' ∈ e.methods, m.form = m'.form ∧ m.site = m'.site := by
  have hmethods : d.uncounted.methods = e.uncounted.methods := by rw [h]
  have hmem : m.uncounted ∈ e.uncounted.methods := by
    rw [← hmethods]
    exact List.mem_map_of_mem hm
  obtain ⟨m', hm', heq⟩ := List.mem_map.mp hmem
  have hform : m'.uncounted.form = m.uncounted.form := by rw [heq]
  have hsite : m'.uncounted.site = m.uncounted.site := by rw [heq]
  exact ⟨m', hm', hform.symm, hsite.symm⟩

theorem uncounted_of_methods {d : Declaration} (h : ∀ m ∈ d.methods, m.uncounted = m) :
    d.uncounted = d := by
  have hm : d.methods.map Method.uncounted = d.methods := by
    rw [List.map_congr_left h, List.map_id']
  rw [uncounted, hm]

theorem uncounted_ofClass (limit : Int) (file : String) (s : Site) :
    (ofClass limit file s).uncounted = ofClass limit file s := by
  refine uncounted_of_methods fun m hm => ?_
  obtain ⟨member, -, h⟩ := List.mem_filterMap.mp hm
  obtain ⟨name, function, form, rfl⟩ := Method.exists_profile_of_ofClassMember? h
  rfl

theorem uncounted_ofObject (limit : Int) (file : String) (number : Nat) (s : Site) :
    (ofObject limit file number s).uncounted = ofObject limit file number s := by
  refine uncounted_of_methods fun m hm => ?_
  obtain ⟨member, -, h⟩ := List.mem_filterMap.mp hm
  obtain ⟨name, function, rfl⟩ := Method.exists_profile_of_ofObjectMember? h
  rfl

theorem form_of_mem_ofObject {limit : Int} {file : String} {number : Nat} {s : Site} {m : Method}
    (h : m ∈ (ofObject limit file number s).methods) : m.form = .objectMethod := by
  obtain ⟨member, -, hm⟩ := List.mem_filterMap.mp h
  obtain ⟨name, function, rfl⟩ := Method.exists_profile_of_ofObjectMember? hm
  rfl

theorem ofClass_origin_ne (limit : Int) (file : String) (s : Site) :
    (ofClass limit file s).origin ≠ .object := by
  change (if _ then _ else _) ≠ _
  split <;> decide

theorem ofClass_name_ne_empty (limit : Int) (file : String) (s : Site) :
    (ofClass limit file s).name ≠ "" := by
  change s.code.properName.getD anonymousClass ≠ ""
  cases h : s.code.properName with
  | none => decide
  | some name => simpa using (Option.filter_eq_some_iff.mp h).2

end Declaration

namespace Use

theorem uncounted_markFirst (name : String) (ms : List Method) :
    (markFirst name ms).map Method.uncounted = ms.map Method.uncounted := by
  induction ms with
  | nil => rfl
  | cons m rest ih =>
    rw [markFirst]
    split
    · rfl
    · rw [List.map_cons, ih, List.map_cons]

theorem uncounted_markIn (u : Use) (d : Declaration) : (u.markIn d).uncounted = d.uncounted := by
  rw [markIn]
  split
  · simp [Declaration.uncounted, uncounted_markFirst]
  · rfl

end Use

namespace Registry

def counted (uses : List Use) (d : Declaration) : Declaration :=
  uses.foldl (fun d u => u.markIn d) d

theorem flush_fst (r : Registry) (n : Nat) (uses : List Use) :
    (uses.foldl mark (r, n)).1 = r.map fun e => (e.1, counted uses e.2) := by
  induction uses generalizing r n with
  | nil => simp [counted]
  | cons u uses ih =>
    rw [List.foldl_cons, mark, ih, List.map_map]
    rfl

theorem uncounted_counted (uses : List Use) (d : Declaration) :
    (counted uses d).uncounted = d.uncounted := by
  induction uses generalizing d with
  | nil => rfl
  | cons u uses ih =>
    change (counted uses (u.markIn d)).uncounted = _
    rw [ih, Use.uncounted_markIn]

theorem facts_counted (uses : List Use) (d : Declaration) :
    (counted uses d).name = d.name ∧ (counted uses d).site = d.site ∧
      (counted uses d).superclass = d.superclass ∧ (counted uses d).origin = d.origin :=
  Declaration.facts_of_uncounted_eq (uncounted_counted uses d)

end Registry

namespace Inheritance

theorem parentOf_record {child : String} (hc : child ≠ "") (g : Inheritance)
    (parent : Option String) (name : String) :
    (g.record child parent).parentOf name =
      if child = name then parent.filter (· != "") else g.parentOf name := by
  cases parent with
  | none => simp [record, hc, parentOf, Assoc.get?_erase]
  | some p =>
    by_cases hp : p = ""
    · subst hp
      simp [record, hc, parentOf, Assoc.get?_erase, Option.filter]
    · by_cases hn : child = name
      · subst hn
        simp [record, hc, hp, parentOf, Assoc.get?_put, Option.filter]
      · simp [record, hc, hp, hn, parentOf, Assoc.get?_erase, Assoc.get?_put]

end Inheritance

namespace Gathering

variable {limit : Int} {file : String} {sites : List Site}

theorem name_ne_empty_of_mem_classDeclarations {d : Declaration}
    (h : d ∈ classDeclarations limit file sites) : d.name ≠ "" := by
  obtain ⟨s, -, rfl⟩ := List.mem_map.mp h
  exact Declaration.ofClass_name_ne_empty limit file s

theorem parentOf_recordAll (ds : List Declaration) (hd : ∀ d ∈ ds, d.name ≠ "")
    (name : String) :
    (recordAll ds).parentOf name =
      (ds.reverse.find? fun d => d.name = name).bind Declaration.properSuperclass := by
  induction ds using List.reverseRecOn with
  | nil => rfl
  | append_singleton ds d ih =>
    have hn : d.name ≠ "" := hd d (by simp)
    rw [recordAll_concat, Inheritance.parentOf_record hn, ih fun e he => hd e (by simp [he]),
      List.reverse_append, List.reverse_singleton, List.singleton_append, List.find?_cons]
    by_cases h : d.name = name <;> simp [h, Declaration.properSuperclass]

theorem registration?_eq_some {objects : Nat} {s : Site} {d : Declaration}
    (h : registration? limit file objects s = some d) :
    (s.isClassLike = true ∧ d = Declaration.ofClass limit file s) ∨
      (s.isClassLike = false ∧ ∃ n, d = Declaration.ofObject limit file n s) := by
  unfold registration? at h
  split at h
  · next hc => exact .inl ⟨hc, (Option.some.inj h).symm⟩
  · next hc =>
    split at h
    · exact .inr ⟨by simpa using hc, _, (Option.some.inj h).symm⟩
    · cases h

theorem mem_registrations {d : Declaration} (h : d ∈ registrations limit file sites) :
    d.site ∈ sites ∧
      ((d.site.isClassLike = true ∧ d = Declaration.ofClass limit file d.site) ∨
        (d.site.isClassLike = false ∧ ∃ n, d = Declaration.ofObject limit file n d.site)) := by
  induction sites using List.reverseRecOn with
  | nil => cases h
  | append_singleton sites s ih =>
    rw [registrations_concat, List.mem_append] at h
    rcases h with h | h
    · exact ⟨List.mem_append_left _ (ih h).1, (ih h).2⟩
    · rcases registration?_eq_some (Option.mem_toList.mp h) with ⟨hc, rfl⟩ | ⟨hc, n, rfl⟩
      · exact ⟨by simp [Declaration.ofClass], .inl ⟨hc, rfl⟩⟩
      · exact ⟨by simp [Declaration.ofObject], .inr ⟨hc, n, rfl⟩⟩

theorem uncounted_of_mem_registrations {d : Declaration}
    (h : d ∈ registrations limit file sites) : d.uncounted = d := by
  rcases (mem_registrations h).2 with ⟨-, hd⟩ | ⟨-, n, hd⟩
  · rw [hd, Declaration.uncounted_ofClass]
  · rw [hd, Declaration.uncounted_ofObject]

theorem filter_registrations (limit : Int) (file : String) (sites : List Site) :
    (registrations limit file sites).filter (fun d => d.origin ≠ .object) =
      classDeclarations limit file sites := by
  induction sites using List.reverseRecOn with
  | nil => rfl
  | append_singleton sites s ih =>
    rw [registrations_concat, List.filter_append, ih, classDeclarations_concat]
    cases hr : registration? limit file (sites.countP Site.isNumbered) s with
    | none =>
      have hc : s.isClassLike = false := by
        cases hc : s.isClassLike
        · rfl
        · simp [registration?, hc] at hr
      simp [hc]
    | some d =>
      rcases registration?_eq_some hr with ⟨hc, rfl⟩ | ⟨hc, n, rfl⟩
      · simp [hc, Declaration.ofClass_origin_ne limit file s]
      · simp [hc, Declaration.ofObject]

end Gathering

end DesignLint
