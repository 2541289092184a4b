import DesignLint.Proofs.Assoc
import DesignLint.Proofs.Declaration.Ancestors
import DesignLint.Proofs.Gathering.Registry
import DesignLint.Proofs.Text.Codes
import Mathlib.Data.List.Chain
import Mathlib.Data.List.Nodup

namespace DesignLint

namespace Assoc

variable {β : Type}

theorem nodup_keys_erase {table : Assoc β} (h : (keys table).Nodup) (key : String) :
    (keys (erase key table)).Nodup :=
  h.sublist (List.filter_sublist.map Prod.fst)

theorem nodup_keys_put {table : Assoc β} (h : (keys table).Nodup) (key : String) (value : β) :
    (keys (put key value table)).Nodup := by
  rw [keys_put]
  split
  · exact h
  · next hk =>
    refine List.nodup_append.mpr ⟨h, List.nodup_singleton key, ?_⟩
    intro a ha b hb hab
    obtain rfl := List.mem_singleton.mp hb
    exact hk (hab ▸ ha)

end Assoc

namespace Inheritance

abbrev Call := String × Option String

def recorded (calls : List Call) : Inheritance :=
  calls.foldl (fun g call => g.record call.1 call.2) []

theorem recorded_concat (calls : List Call) (call : Call) :
    recorded (calls ++ [call]) = (recorded calls).record call.1 call.2 := by
  simp [recorded]

theorem nodup_keys_record {g : Inheritance} (h : (Assoc.keys g).Nodup) (child : String)
    (parent : Option String) : (Assoc.keys (g.record child parent)).Nodup := by
  have herase := Assoc.nodup_keys_erase h child
  unfold record
  split
  · exact h
  · cases parent with
    | none => exact herase
    | some p =>
      dsimp only
      split
      · exact herase
      · exact Assoc.nodup_keys_put herase child p

theorem nodup_keys_recorded (calls : List Call) : (Assoc.keys (recorded calls)).Nodup := by
  induction calls using List.reverseRecOn with
  | nil => exact .nil
  | append_singleton calls call ih =>
    rw [recorded_concat]
    exact nodup_keys_record ih call.1 call.2

def lastParent? (calls : List Call) (child : String) : Option String :=
  if child = "" then none
  else ((calls.reverse.find? fun call => call.1 = child).bind Prod.snd).filter (· != "")

theorem parentOf_recorded (calls : List Call) (child : String) :
    (recorded calls).parentOf child = lastParent? calls child := by
  induction calls using List.reverseRecOn with
  | nil => simp [recorded, lastParent?, parentOf, Assoc.get?]
  | append_singleton calls call ih =>
    obtain ⟨c, parent⟩ := call
    rw [recorded_concat]
    by_cases hc : c = ""
    · subst hc
      have hsame : (recorded calls).record "" parent = recorded calls := by simp [record]
      rw [hsame, ih, lastParent?, lastParent?]
      by_cases hn : child = ""
      · simp [hn]
      · have hn' : "" ≠ child := fun e => hn e.symm
        simp [hn, hn']
    · rw [parentOf_record hc, ih, lastParent?, lastParent?]
      by_cases hn : c = child
      · subst hn
        simp [hc]
      · simp [hn]

theorem lastParent?_filter (calls : List Call) (child : String) :
    lastParent? (calls.filter fun call => call.1 = child) child = lastParent? calls child := by
  rw [lastParent?, lastParent?, ← List.filter_reverse, List.find?_filter]
  simp

theorem mem_subclasses_iff {g : Inheritance} (h : (Assoc.keys g).Nodup) (parent child : String) :
    child ∈ g.subclasses parent ↔ g.parentOf child = some parent := by
  rw [subclasses, List.mem_mergeSort, List.mem_map]
  constructor
  · rintro ⟨⟨c, p⟩, hmem, rfl⟩
    obtain ⟨hg, hp⟩ := List.mem_filter.mp hmem
    obtain rfl : p = parent := by simpa using hp
    exact Assoc.get?_of_mem h hg
  · intro hp
    exact ⟨(child, parent), List.mem_filter.mpr ⟨Assoc.mem_of_get? hp, by simp⟩, rfl⟩

theorem nodup_subclasses {g : Inheritance} (h : (Assoc.keys g).Nodup) (parent : String) :
    (g.subclasses parent).Nodup := by
  have hsub : ((g.filter fun e => e.2 = parent).map Prod.fst).Nodup :=
    h.sublist (List.filter_sublist.map Prod.fst)
  exact (List.mergeSort_perm _ _).nodup_iff.mpr hsub

theorem IsWay.nodup {g : Inheritance} {seen : List String} {child : String} {way : List String}
    (h : IsWay g seen child way) : way.Nodup ∧ ∀ n ∈ way, n ∉ seen := by
  induction way generalizing seen child with
  | nil => exact ⟨.nil, by simp⟩
  | cons p rest ih =>
    obtain ⟨-, hp, hrest⟩ := h
    obtain ⟨hnodup, hnew⟩ := ih hrest
    refine ⟨List.nodup_cons.mpr ⟨fun hm => hnew p hm List.mem_cons_self, hnodup⟩, ?_⟩
    intro n hn
    rcases List.mem_cons.mp hn with rfl | hn
    · exact hp
    · exact fun hm => hnew n hn (List.mem_cons_of_mem _ hm)

theorem IsWay.isChain {g : Inheritance} {seen : List String} {child : String} {way : List String}
    (h : IsWay g seen child way) :
    (child :: way).IsChain fun a b => g.parentOf a = some b := by
  induction way generalizing seen child with
  | nil => exact .singleton child
  | cons p rest ih =>
    obtain ⟨hparent, -, hrest⟩ := h
    exact .cons_cons hparent (ih hrest)

theorem IsWay.concat {g : Inheritance} {seen : List String} {child p : String}
    {way : List String} (h : IsWay g seen child way)
    (hparent : g.parentOf (way.getLast?.getD child) = some p) (hp : p ∉ seen ++ way) :
    IsWay g seen child (way ++ [p]) := by
  induction way generalizing seen child with
  | nil => exact ⟨hparent, by simpa using hp, trivial⟩
  | cons q rest ih =>
    obtain ⟨hq, hnew, hrest⟩ := h
    refine ⟨hq, hnew, ih hrest ?_ ?_⟩
    · simpa [List.getLast?_cons] using hparent
    · simp only [List.mem_append, List.mem_cons, not_or] at hp ⊢
      exact ⟨⟨hp.2.1, hp.1⟩, hp.2.2⟩

-- A longer way would be a prefix of the ancestors, which are the longest one.
theorem mem_of_parentOf_last {g : Inheritance} {child p : String}
    (h : g.parentOf ((g.ancestors child).getLast?.getD child) = some p) :
    p ∈ child :: g.ancestors child := by
  by_contra hp
  have hway := (isWay_ancestors g child).concat h hp
  have hlength := (prefix_ancestors hway).length_le
  rw [List.length_append, List.length_singleton] at hlength
  omega

theorem firstDeclaring_eq_some_iff {r : Registry} {method : String} {names : List String}
    {found : Declaration × Method} :
    firstDeclaring r method names = some found ↔
      ∃ before a after, names = before ++ a :: after ∧
        (∀ n ∈ before, ∃ d, r.get? n = some d ∧ d.method? method = none) ∧
        r.get? a = some found.1 ∧ found.1.method? method = some found.2 := by
  induction names with
  | nil => simp [firstDeclaring]
  | cons c rest ih =>
    rw [firstDeclaring]
    constructor
    · intro h
      cases hc : r.get? c with
      | none => simp [hc] at h
      | some d =>
        cases hm : d.method? method with
        | some m =>
          simp only [hc, hm, Option.some.injEq] at h
          subst h
          exact ⟨[], c, rest, rfl, by simp, hc, hm⟩
        | none =>
          simp only [hc, hm] at h
          obtain ⟨before, a, after, rfl, hbefore, ha⟩ := ih.mp h
          exact ⟨c :: before, a, after, rfl,
            List.forall_mem_cons.mpr ⟨⟨d, hc, hm⟩, hbefore⟩, ha⟩
    · rintro ⟨before, a, after, hsplit, hbefore, ha, hm⟩
      cases before with
      | nil =>
        obtain ⟨rfl, rfl⟩ := List.cons.inj hsplit
        simp only [ha, hm]
      | cons b before =>
        obtain ⟨rfl, hrest⟩ := List.cons.inj hsplit
        obtain ⟨⟨d, hd, hnone⟩, hbefore⟩ := List.forall_mem_cons.mp hbefore
        simp only [hd, hnone]
        exact ih.mpr ⟨before, a, after, hrest, hbefore, ha, hm⟩

structure Reflects (calls : List Call) (g : Inheritance) : Prop where
  single : (Assoc.keys g).Nodup
  parent : ∀ c, g.parentOf c = lastParent? calls c
  others : ∀ c, g.parentOf c = (recorded (calls.filter fun call => call.1 = c)).parentOf c
  sorted : ∀ p, (g.subclasses p).Pairwise fun a b => Text.codes a ≤ Text.codes b
  subclasses : ∀ p, (g.subclasses p).Nodup ∧ ∀ c, c ∈ g.subclasses p ↔ g.parentOf c = some p
  fresh : ∀ c, (c :: g.ancestors c).Nodup
  steps : ∀ c, (c :: g.ancestors c).IsChain fun a b => g.parentOf a = some b
  stops : ∀ c p, g.parentOf ((g.ancestors c).getLast?.getD c) = some p → p ∈ c :: g.ancestors c
  inherited : ∀ (r : Registry) (c method : String) (found : Declaration × Method),
    g.findInherited r c method = some found ↔
      ∃ before a after, g.ancestors c = before ++ a :: after ∧
        (∀ n ∈ before, ∃ d, r.get? n = some d ∧ d.method? method = none) ∧
        r.get? a = some found.1 ∧ found.1.method? method = some found.2

theorem recorded_reflects (calls : List Call) : Reflects calls (recorded calls) where
  single := nodup_keys_recorded calls
  parent := parentOf_recorded calls
  others := by
    intro c
    rw [parentOf_recorded, parentOf_recorded, lastParent?_filter]
  sorted := fun p => Text.pairwise_mergeSort_precedes _
  subclasses := fun p =>
    ⟨nodup_subclasses (nodup_keys_recorded calls) p,
      mem_subclasses_iff (nodup_keys_recorded calls) p⟩
  fresh := by
    intro c
    obtain ⟨hnodup, hnew⟩ := (isWay_ancestors (recorded calls) c).nodup
    exact List.nodup_cons.mpr ⟨fun hm => hnew c hm List.mem_cons_self, hnodup⟩
  steps := fun c => (isWay_ancestors (recorded calls) c).isChain
  stops := fun c p => mem_of_parentOf_last
  inherited := fun r c method found => firstDeclaring_eq_some_iff

end Inheritance

end DesignLint
