import DesignLint.Proofs.Gathering.Registry
import Mathlib.Algebra.BigOperators.Group.List.Basic
import Mathlib.Algebra.GroupWithZero.Nat
import Mathlib.Logic.Function.Basic

namespace DesignLint

namespace Method

def marked (times : Nat) (m : Method) : Method :=
  { m with isUsed := m.isUsed || decide (0 < times), uses := m.uses + times }

@[simp] theorem marked_zero (m : Method) : m.marked 0 = m := by
  simp [marked]

@[simp] theorem name_marked (times : Nat) (m : Method) : (m.marked times).name = m.name := rfl

theorem markUsed_marked (times : Nat) (m : Method) :
    (m.marked times).markUsed = m.marked (times + 1) := by
  simp [markUsed, marked, Nat.add_assoc]

def Tallied (m : Method) : Prop :=
  m.isUsed = true ↔ 0 < m.uses

theorem Tallied.marked {m : Method} (h : m.Tallied) (times : Nat) : (m.marked times).Tallied := by
  have hm : m.isUsed = true ↔ 0 < m.uses := h
  simp only [Tallied, Method.marked, Bool.or_eq_true, decide_eq_true_eq, hm]
  omega

theorem tallied_of_uncounted {m : Method} (h : m.uncounted = m) : m.Tallied ∧ m.uses = 0 := by
  rw [← h]
  simp [Tallied, uncounted]

def recounted (count : String → Nat) : List Method → List Method
  | [] => []
  | m :: rest => m.marked (count m.name) :: recounted (Function.update count m.name 0) rest

theorem recounted_zero (ms : List Method) : recounted (fun _ => 0) ms = ms := by
  induction ms with
  | nil => rfl
  | cons m rest ih => rw [recounted, Function.update_eq_self m.name (fun _ => 0), ih, marked_zero]

theorem markFirst_recounted (name : String) (count : String → Nat) (ms : List Method) :
    Use.markFirst name (recounted count ms) =
      recounted (Function.update count name (count name + 1)) ms := by
  induction ms generalizing count with
  | nil => rfl
  | cons m rest ih =>
    rw [recounted, recounted, Use.markFirst, name_marked]
    by_cases h : m.name = name
    · subst h
      rw [if_pos rfl, markUsed_marked, Function.update_self, Function.update_idem]
    · have hn : name ≠ m.name := fun e => h e.symm
      rw [if_neg h, ih, Function.update_of_ne hn, Function.update_of_ne h,
        Function.update_comm hn]

theorem find?_recounted (count : String → Nat) (ms : List Method) (name : String) :
    (recounted count ms).find? (fun m => m.name = name) =
      (ms.find? fun m => m.name = name).map (marked (count name)) := by
  induction ms generalizing count with
  | nil => rfl
  | cons m rest ih =>
    rw [recounted, List.find?_cons, List.find?_cons, name_marked]
    by_cases h : m.name = name
    · simp [h]
    · have hn : name ≠ m.name := fun e => h e.symm
      simp [h, ih, Function.update_of_ne hn]

theorem exists_of_mem_recounted {count : String → Nat} {ms : List Method} {m : Method}
    (h : m ∈ recounted count ms) :
    ∃ x ∈ ms, ∃ times ≤ count x.name, m = x.marked times := by
  induction ms generalizing count with
  | nil => cases h
  | cons x rest ih =>
    rcases List.mem_cons.mp h with rfl | h
    · exact ⟨x, by simp, count x.name, Nat.le_refl _, rfl⟩
    · obtain ⟨y, hy, times, ht, rfl⟩ := ih h
      refine ⟨y, by simp [hy], times, Nat.le_trans ht ?_, rfl⟩
      by_cases hn : y.name = x.name
      · simp [hn]
      · simp [Function.update_of_ne hn]

theorem tallied_of_mem_recounted {count : String → Nat} {ms : List Method}
    (hms : ∀ x ∈ ms, x.Tallied) {m : Method} (h : m ∈ recounted count ms) : m.Tallied := by
  obtain ⟨x, hx, times, -, rfl⟩ := exists_of_mem_recounted h
  exact (hms x hx).marked times

theorem uses_of_repeated {count : String → Nat} {ms : List Method} (hms : ∀ x ∈ ms, x.uses = 0)
    {before after : List Method} {m : Method} (h : recounted count ms = before ++ m :: after)
    (hm : ∃ b ∈ before, b.name = m.name) : m.uses = 0 := by
  induction ms generalizing count before with
  | nil => simp [recounted] at h
  | cons x rest ih =>
    cases before with
    | nil => simp at hm
    | cons b before =>
      rw [recounted, List.cons_append, List.cons.injEq] at h
      obtain ⟨rfl, hrest⟩ := h
      obtain ⟨c, hc, hname⟩ := hm
      rcases List.mem_cons.mp hc with rfl | hc
      · have hmem : m ∈ recounted (Function.update count x.name 0) rest := by simp [hrest]
        obtain ⟨y, hy, times, ht, rfl⟩ := exists_of_mem_recounted hmem
        have hzero : times = 0 := by
          have hyx : y.name = x.name := hname.symm
          simpa [hyx] using ht
        rw [hzero, marked_zero]
        exact hms y (by simp [hy])
      · exact ih (fun y hy => hms y (by simp [hy])) hrest ⟨c, hc, hname⟩

end Method

namespace Use

theorem concerns_markIn (u v : Use) (d : Declaration) : v.concerns (u.markIn d) = v.concerns d := by
  rw [markIn]
  split <;> rfl

theorem uses_markFirst (name : String) (ms : List Method) :
    ((markFirst name ms).map (·.uses)).sum =
      (ms.map (·.uses)).sum + if ms.any (fun m => m.name = name) then 1 else 0 := by
  induction ms with
  | nil => rfl
  | cons m rest ih =>
    rw [markFirst]
    by_cases h : m.name = name
    · simp [h, Method.markUsed]
      omega
    · simp [h, ih, Nat.add_assoc]

end Use

namespace Declaration

def useCount (d : Declaration) : Nat :=
  (d.methods.map (·.uses)).sum

theorem useCount_markIn (u : Use) (d : Declaration) :
    (u.markIn d).useCount = d.useCount + if u.hits d then 1 else 0 := by
  rw [Use.markIn, Use.hits]
  by_cases h : u.concerns d
  · rw [if_pos h, h, Bool.true_and]
    exact Use.uses_markFirst u.member d.methods
  · simp [h]

theorem uncounted_of_mem {d : Declaration} (h : d.uncounted = d) {m : Method}
    (hm : m ∈ d.methods) : m.uncounted = m := by
  rw [← h] at hm
  obtain ⟨x, -, rfl⟩ := List.mem_map.mp hm
  rfl

theorem useCount_of_uncounted {d : Declaration} (h : d.uncounted = d) : d.useCount = 0 := by
  rw [← h]
  simp [useCount, uncounted, Method.uncounted, Function.comp_def]

end Declaration

namespace Registry

def useCount (r : Registry) : Nat :=
  (r.declarations.map Declaration.useCount).sum

theorem useCount_map_markIn (r : Registry) (u : Use) :
    useCount (r.map fun e => (e.1, u.markIn e.2)) = r.useCount + r.countP fun e => u.hits e.2 := by
  simp only [useCount, declarations, List.map_map, Function.comp_def, Declaration.useCount_markIn]
  induction r with
  | nil => rfl
  | cons e rest ih =>
    rw [List.map_cons, List.sum_cons, ih, List.map_cons, List.sum_cons, List.countP_cons]
    omega

theorem useCount_mark (state : Registry × Nat) (u : Use) :
    (mark state u).1.useCount + state.2 = state.1.useCount + (mark state u).2 := by
  rw [mark, useCount_map_markIn]
  omega

theorem useCount_foldl_mark (uses : List Use) (state : Registry × Nat) :
    (uses.foldl mark state).1.useCount + state.2 =
      state.1.useCount + (uses.foldl mark state).2 := by
  induction uses generalizing state with
  | nil => rfl
  | cons u uses ih =>
    have hstep := useCount_mark state u
    have hrest := ih (mark state u)
    rw [List.foldl_cons]
    omega

theorem counted_concat (uses : List Use) (u : Use) (d : Declaration) :
    counted (uses ++ [u]) d = u.markIn (counted uses d) := by
  simp [counted]

theorem concerns_counted (u : Use) (uses : List Use) (d : Declaration) :
    u.concerns (counted uses d) = u.concerns d := by
  induction uses using List.reverseRecOn with
  | nil => rfl
  | append_singleton uses v ih => rw [counted_concat, Use.concerns_markIn, ih]

def usesOf (uses : List Use) (d : Declaration) (name : String) : Nat :=
  uses.countP fun u => u.member = name && u.concerns d

theorem usesOf_counted (uses counting : List Use) (d : Declaration) (name : String) :
    usesOf uses (counted counting d) name = usesOf uses d name := by
  simp only [usesOf, concerns_counted]

theorem usesOf_concat (uses : List Use) (u : Use) (d : Declaration) :
    usesOf (uses ++ [u]) d =
      if u.concerns d then
        Function.update (usesOf uses d) u.member (usesOf uses d u.member + 1)
      else usesOf uses d := by
  funext name
  rw [usesOf, List.countP_append, List.countP_singleton, ← usesOf]
  by_cases hc : u.concerns d
  · by_cases hn : name = u.member
    · simp [hc, hn]
    · have hn' : u.member ≠ name := fun e => hn e.symm
      simp [hc, hn', Function.update_of_ne hn]
  · simp [hc]

theorem methods_counted (uses : List Use) (d : Declaration) :
    (counted uses d).methods = Method.recounted (usesOf uses d) d.methods := by
  induction uses using List.reverseRecOn with
  | nil => exact (Method.recounted_zero d.methods).symm
  | append_singleton uses u ih =>
    rw [counted_concat, usesOf_concat, Use.markIn, concerns_counted]
    split
    · rw [← Method.markFirst_recounted, ← ih]
    · exact ih

theorem method?_counted (uses : List Use) (d : Declaration) (name : String) :
    (counted uses d).method? name = (d.method? name).map (Method.marked (usesOf uses d name)) := by
  rw [Declaration.method?, methods_counted]
  exact Method.find?_recounted (usesOf uses d) d.methods name

end Registry

end DesignLint
