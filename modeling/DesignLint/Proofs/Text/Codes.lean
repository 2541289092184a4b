import DesignLint.Text.Surrogate
import Mathlib.Data.List.Lex

namespace DesignLint.Text

theorem codeOf_injective : Function.Injective codeOf := by
  intro c d h
  have hc : c.toNat.isValidChar := c.valid
  have hd : d.toNat.isValidChar := d.valid
  rw [Nat.isValidChar] at hc hd
  refine Char.toNat_inj.mp ?_
  simp only [codeOf, half?] at h
  -- the code of a half lies where no character has its own
  by_cases hm : 0x10D800 ≤ c.toNat ∧ c.toNat < 0x10E000
  · by_cases hn : 0x10D800 ≤ d.toNat ∧ d.toNat < 0x10E000
    · rw [if_pos hm, if_pos hn, Option.getD_some, Option.getD_some] at h
      omega
    · rw [if_pos hm, if_neg hn, Option.getD_some, Option.getD_none] at h
      omega
  · by_cases hn : 0x10D800 ≤ d.toNat ∧ d.toNat < 0x10E000
    · rw [if_neg hm, if_pos hn, Option.getD_some, Option.getD_none] at h
      omega
    · rwa [if_neg hm, if_neg hn] at h

def codes (s : String) : List Nat := s.toList.map codeOf

theorem codes_injective : Function.Injective codes := by
  intro a b h
  exact String.toList_inj.mp (codeOf_injective.list_map h)

theorem precedes_iff (a b : String) : precedes a b = true ↔ codes a ≤ codes b := by
  rw [precedes, List.lex_eq_decide_lex, Bool.not_eq_true', decide_eq_false_iff_not, ← not_lt]
  simp only [decide_eq_true_eq]
  rfl

theorem pairwise_mergeSort_precedes (l : List String) :
    (l.mergeSort precedes).Pairwise fun a b => codes a ≤ codes b := by
  have htrans (a b c : String) (hab : precedes a b) (hbc : precedes b c) : precedes a c := by
    rw [precedes_iff] at *
    exact le_trans hab hbc
  have htotal (a b : String) : precedes a b || precedes b a := by
    rw [Bool.or_eq_true, precedes_iff, precedes_iff]
    exact le_total (codes a) (codes b)
  refine (List.pairwise_mergeSort htrans htotal l).imp fun h => ?_
  exact (precedes_iff _ _).mp h

end DesignLint.Text
