namespace DesignLint

abbrev Assoc (β : Type) := List (String × β)

namespace Assoc

variable {β : Type}

def get? (key : String) : Assoc β → Option β
  | [] => none
  | (k, v) :: rest => if k = key then some v else get? key rest

def put (key : String) (value : β) : Assoc β → Assoc β
  | [] => [(key, value)]
  | (k, v) :: rest => if k = key then (k, value) :: rest else (k, v) :: put key value rest

def erase (key : String) (table : Assoc β) : Assoc β :=
  table.filter fun e => e.1 != key

def keys (table : Assoc β) : List String :=
  table.map Prod.fst

theorem get?_put (key k : String) (value : β) (table : Assoc β) :
    get? k (put key value table) = if key = k then some value else get? k table := by
  induction table with
  | nil => simp [put, get?]
  | cons e rest ih =>
    obtain ⟨k', v⟩ := e
    by_cases h : k' = key
    · subst h
      by_cases hk : k' = k <;> simp [put, get?, hk]
    · by_cases hk : k' = k
      · subst hk
        simp [put, get?, h, Ne.symm h]
      · simp [put, get?, h, hk, ih]

theorem get?_erase (key k : String) (table : Assoc β) :
    get? k (erase key table) = if key = k then none else get? k table := by
  induction table with
  | nil => simp [erase, get?]
  | cons e rest ih =>
    obtain ⟨k', v⟩ := e
    simp only [erase] at ih
    by_cases h : k' = key
    · subst h
      by_cases hk : k' = k <;> simp_all [erase, get?]
    · by_cases hk : k' = k
      · subst hk
        simp [erase, get?, h, Ne.symm h]
      · simp [erase, get?, h, hk, ih]

theorem keys_put (key : String) (value : β) (table : Assoc β) :
    keys (put key value table) = if key ∈ keys table then keys table else keys table ++ [key] := by
  induction table with
  | nil => simp [put, keys]
  | cons e rest ih =>
    obtain ⟨k', v⟩ := e
    by_cases h : k' = key
    · subst h
      simp [put, keys]
    · have hn : key ≠ k' := fun e => h e.symm
      simp only [keys] at ih
      by_cases hm : key ∈ rest.map Prod.fst <;> simp [put, keys, h, hn, ih, hm]

theorem length_erase_lt {key : String} {value : β} {table : Assoc β}
    (h : get? key table = some value) : (erase key table).length < table.length := by
  induction table with
  | nil => simp [get?] at h
  | cons e rest ih =>
    obtain ⟨k', v⟩ := e
    by_cases hk : k' = key
    · simpa [erase, hk] using Nat.lt_succ_of_le (List.length_filter_le _ rest)
    · rw [get?, if_neg hk] at h
      simpa [erase, hk] using ih h

end Assoc

end DesignLint
