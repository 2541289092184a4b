import DesignLint.Assoc
import Mathlib.Data.List.Induction

namespace DesignLint.Assoc

variable {β γ : Type}

theorem get?_map (f : β → γ) (key : String) (table : Assoc β) :
    get? key (table.map fun e => (e.1, f e.2)) = (get? key table).map f := by
  induction table with
  | nil => rfl
  | cons e rest ih =>
    obtain ⟨k, v⟩ := e
    by_cases h : k = key <;> simp [get?, h, ih]

theorem get?_of_mem {key : String} {value : β} {table : Assoc β} (hn : (keys table).Nodup)
    (h : (key, value) ∈ table) : get? key table = some value := by
  induction table with
  | nil => cases h
  | cons e rest ih =>
    obtain ⟨k, v⟩ := e
    obtain ⟨hk, hrest⟩ := List.nodup_cons.mp hn
    rcases List.mem_cons.mp h with he | hm
    · obtain ⟨rfl, rfl⟩ := Prod.mk.inj he
      simp [get?]
    · have hne : k ≠ key := by
        rintro rfl
        exact hk (List.mem_map.mpr ⟨_, hm, rfl⟩)
      rw [get?, if_neg hne]
      exact ih hrest hm

theorem mem_of_get? {key : String} {value : β} {table : Assoc β}
    (h : get? key table = some value) : (key, value) ∈ table := by
  induction table with
  | nil => simp [get?] at h
  | cons e rest ih =>
    obtain ⟨k, v⟩ := e
    rw [get?] at h
    split at h
    · next hk =>
      obtain rfl := Option.some.inj h
      simp [hk]
    · exact List.mem_cons_of_mem _ (ih h)

theorem isSome_get?_iff {key : String} {table : Assoc β} :
    (get? key table).isSome = true ↔ key ∈ keys table := by
  induction table with
  | nil => simp [get?, keys]
  | cons e rest ih =>
    obtain ⟨k, v⟩ := e
    by_cases h : k = key
    · simp [get?, keys, h]
    · rw [get?, if_neg h, ih]
      simp [keys, Ne.symm h]

def putAll (key : β → String) (values : List β) : Assoc β :=
  values.foldl (fun table v => put (key v) v table) []

theorem putAll_concat (key : β → String) (values : List β) (v : β) :
    putAll key (values ++ [v]) = put (key v) v (putAll key values) := by
  simp [putAll]

theorem get?_putAll (key : β → String) (values : List β) (k : String) :
    get? k (putAll key values) = values.reverse.find? fun v => key v = k := by
  induction values using List.reverseRecOn with
  | nil => rfl
  | append_singleton values v ih =>
    rw [putAll_concat, get?_put, ih, List.reverse_append, List.reverse_singleton,
      List.singleton_append, List.find?_cons]
    by_cases h : key v = k <;> simp [h]

theorem keys_putAll (key : β → String) (values : List β) :
    keys (putAll key values) = (values.map key).eraseDups := by
  induction values using List.reverseRecOn with
  | nil => rfl
  | append_singleton values v ih =>
    rw [putAll_concat, keys_put, ih, List.map_append, List.eraseDups_append, List.map_singleton,
      List.removeAll, List.filter_cons, List.filter_nil]
    by_cases h : key v ∈ values.map key
    · simp only [List.mem_eraseDups, h, if_true, List.elem_eq_mem, decide_true, Bool.not_true,
        Bool.false_eq_true, if_false, List.eraseDups_nil, List.append_nil]
    · simp only [List.mem_eraseDups, h, if_false, List.elem_eq_mem, decide_false, Bool.not_false,
        if_true, List.eraseDups_cons, List.filter_nil, List.eraseDups_nil]

theorem nodup_keys_putAll (key : β → String) (values : List β) :
    (keys (putAll key values)).Nodup := by
  induction values using List.reverseRecOn with
  | nil => exact .nil
  | append_singleton values v ih =>
    rw [putAll_concat, keys_put]
    by_cases h : key v ∈ keys (putAll key values)
    · rwa [if_pos h]
    · rw [if_neg h, List.nodup_append]
      refine ⟨ih, by simp, ?_⟩
      intro a ha b hb hab
      obtain rfl := List.mem_singleton.mp hb
      exact h (hab ▸ ha)

theorem mem_of_mem_putAll {key : β → String} {values : List β} {e : String × β}
    (h : e ∈ putAll key values) : e.2 ∈ values := by
  have hg := get?_of_mem (nodup_keys_putAll key values) h
  rw [get?_putAll] at hg
  exact List.mem_reverse.mp (List.mem_of_find?_eq_some hg)

theorem key_of_mem_putAll {key : β → String} {values : List β} {e : String × β}
    (h : e ∈ putAll key values) : key e.2 = e.1 := by
  have hg := get?_of_mem (nodup_keys_putAll key values) h
  rw [get?_putAll] at hg
  simpa using List.find?_some hg

section Fill

variable {α : Type} (key : α → String) (value : α → β)

def fill (table : Assoc β) (items : List α) : Assoc β :=
  items.foldl (fun table a => put (key a) (value a) table) table

theorem fill_concat (table : Assoc β) (items : List α) (a : α) :
    fill key value table (items ++ [a]) = put (key a) (value a) (fill key value table items) := by
  simp [fill]

theorem get?_fill (table : Assoc β) (items : List α) (k : String) :
    get? k (fill key value table items) =
      ((items.reverse.find? fun a => key a = k).map value).or (get? k table) := by
  induction items using List.reverseRecOn with
  | nil => rfl
  | append_singleton items a ih =>
    rw [fill_concat, get?_put, ih, List.reverse_append, List.reverse_singleton,
      List.singleton_append, List.find?_cons]
    by_cases h : key a = k <;> simp [h]

theorem keys_fill {table : Assoc β} {items : List α} (h : ∀ a ∈ items, key a ∈ keys table) :
    keys (fill key value table items) = keys table := by
  induction items using List.reverseRecOn with
  | nil => rfl
  | append_singleton items a ih =>
    have hrest := ih fun b hb => h b (by simp [hb])
    rw [fill_concat, keys_put, hrest, if_pos (h a (by simp))]

end Fill

end DesignLint.Assoc
