import DesignLint.Declaration.Inheritance

namespace DesignLint.Inheritance

def IsWay (g : Inheritance) : List String → String → List String → Prop
  | _, _, [] => True
  | seen, child, p :: rest => g.parentOf child = some p ∧ p ∉ seen ∧ IsWay g (p :: seen) p rest

theorem IsWay.of_subset {g : Inheritance} {seen seen' : List String} {child : String}
    {way : List String} (h : IsWay g seen child way) (hs : ∀ n ∈ seen', n ∈ seen) :
    IsWay g seen' child way := by
  induction way generalizing seen seen' child with
  | nil => trivial
  | cons p rest ih =>
    obtain ⟨hp, hn, hrest⟩ := h
    refine ⟨hp, fun hm => hn (hs p hm), ih hrest ?_⟩
    intro n hm
    rcases List.mem_cons.mp hm with rfl | hm
    · exact List.mem_cons_self
    · exact List.mem_cons_of_mem _ (hs n hm)

theorem IsWay.behind {g : Inheritance} {seen : List String} {child a : String}
    {before after : List String} (h : IsWay g seen child (before ++ a :: after)) :
    IsWay g [a] a after := by
  induction before generalizing seen child with
  | nil =>
    obtain ⟨-, -, hrest⟩ := h
    exact hrest.of_subset (by simp)
  | cons p rest ih =>
    obtain ⟨-, -, hrest⟩ := h
    exact ih hrest

-- The climb takes out each class that it leaves; what is left agrees with the whole graph on the
-- class where it stands and on all that it has not met.
def Agrees (g left : Inheritance) (seen : List String) (child : String) : Prop :=
  ∀ n, n = child ∨ n ∉ seen → Assoc.get? n left = Assoc.get? n g

theorem Agrees.erase {g left : Inheritance} {seen : List String} {child p : String}
    (h : Agrees g left seen child) (hc : child ∈ seen) (hp : p ∉ seen) :
    Agrees g (Assoc.erase child left) (p :: seen) p := by
  intro n hn
  have hnot : n ∉ seen := by
    rcases hn with rfl | hn
    · exact hp
    · exact fun hm => hn (List.mem_cons_of_mem _ hm)
  have hne : child ≠ n := fun he => hnot (he ▸ hc)
  rw [Assoc.get?_erase, if_neg hne]
  exact h n (.inr hnot)

theorem isWay_climb {g left : Inheritance} {seen : List String} {child : String}
    (h : Agrees g left seen child) (hc : child ∈ seen) :
    IsWay g seen child (climb left seen child) := by
  fun_induction climb left seen child with
  | case1 => trivial
  | case2 => trivial
  | case3 left seen child p hget hp ih =>
    refine ⟨?_, hp, ih (h.erase hc hp) List.mem_cons_self⟩
    rw [parentOf, ← h child (.inl rfl), hget]

theorem prefix_climb {g left : Inheritance} {seen : List String} {child : String}
    {way : List String} (h : Agrees g left seen child) (hc : child ∈ seen)
    (hw : IsWay g seen child way) : way <+: climb left seen child := by
  fun_induction climb left seen child generalizing way with
  | case1 left seen child hget =>
    cases way with
    | nil => exact List.nil_prefix
    | cons q rest =>
      have hq : Assoc.get? child g = some q := hw.1
      rw [← h child (.inl rfl), hget] at hq
      cases hq
  | case2 left seen child p hget hp =>
    cases way with
    | nil => exact List.nil_prefix
    | cons q rest =>
      have hq : Assoc.get? child g = some q := hw.1
      rw [← h child (.inl rfl), hget] at hq
      obtain rfl := Option.some.inj hq
      exact absurd hp hw.2.1
  | case3 left seen child p hget hp ih =>
    cases way with
    | nil => exact List.nil_prefix
    | cons q rest =>
      have hq : Assoc.get? child g = some q := hw.1
      rw [← h child (.inl rfl), hget] at hq
      obtain rfl := Option.some.inj hq
      exact (List.prefix_cons_inj p).mpr (ih (h.erase hc hp) List.mem_cons_self hw.2.2)

theorem isWay_ancestors (g : Inheritance) (child : String) :
    IsWay g [child] child (g.ancestors child) :=
  isWay_climb (fun _ _ => rfl) List.mem_cons_self

theorem prefix_ancestors {g : Inheritance} {child : String} {way : List String}
    (h : IsWay g [child] child way) : way <+: g.ancestors child :=
  prefix_climb (fun _ _ => rfl) List.mem_cons_self h

theorem prefix_ancestors_of_ancestor {g : Inheritance} {child a : String}
    {before after : List String} (h : g.ancestors child = before ++ a :: after) :
    after <+: g.ancestors a := by
  have hw := isWay_ancestors g child
  rw [h] at hw
  exact prefix_ancestors hw.behind

theorem exists_parent_of_ancestors {g : Inheritance} {child a : String}
    {before after : List String} (h : g.ancestors child = before ++ a :: after) :
    ∃ p, g.parentOf child = some p := by
  have hw := isWay_ancestors g child
  rw [h] at hw
  cases before with
  | nil => exact ⟨a, hw.1⟩
  | cons p rest => exact ⟨p, hw.1⟩

theorem firstDeclaring_append {r : Registry} {method : String} {before : List String}
    {a : String} {d : Declaration} {b : Method} (after : List String)
    (hb : ∀ n ∈ before, (r.get? n).isSome) (ha : r.get? a = some d)
    (hm : d.method? method = some b) :
    ∃ (nearer : List String) (n : String) (rest : List String) (e : Declaration) (m : Method),
      before ++ [a] = nearer ++ n :: rest ∧ r.get? n = some e ∧ e.method? method = some m ∧
      firstDeclaring r method (before ++ a :: after) = some (e, m) := by
  induction before with
  | nil => exact ⟨[], a, [], d, b, rfl, ha, hm, by simp [firstDeclaring, ha, hm]⟩
  | cons c before ih =>
    obtain ⟨e, he⟩ := Option.isSome_iff_exists.mp (hb c List.mem_cons_self)
    cases hc : e.method? method with
    | some m => exact ⟨[], c, before ++ [a], e, m, rfl, he, hc, by simp [firstDeclaring, he, hc]⟩
    | none =>
      obtain ⟨nearer, n, rest, f, m, hsplit, hf, hmf, hfirst⟩ :=
        ih fun n hn => hb n (List.mem_cons_of_mem _ hn)
      refine ⟨c :: nearer, n, rest, f, m, by simp [hsplit], hf, hmf, ?_⟩
      simpa [firstDeclaring, he, hc] using hfirst

end DesignLint.Inheritance
