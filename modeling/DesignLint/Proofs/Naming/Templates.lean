import DesignLint.NamePattern
import Mathlib.Data.List.Basic

namespace DesignLint

namespace Marks

variable {one : Char → Bool} {test : List Char → Bool} {s : List Char}

theorem afterOne_iff :
    afterOne one test s = true ↔ ∃ c rest, s = c :: rest ∧ one c = true ∧ test rest = true := by
  cases s with
  | nil => simp [afterOne]
  | cons c cs => simp [afterOne, Bool.and_eq_true]

theorem afterRun_iff :
    afterRun one test s = true ↔
      ∃ run rest, s = run ++ rest ∧ (∀ c ∈ run, one c = true) ∧ test rest = true := by
  induction s with
  | nil =>
    constructor
    · intro h
      exact ⟨[], [], rfl, by simp, h⟩
    · rintro ⟨run, rest, h, -, htest⟩
      obtain ⟨rfl, rfl⟩ := List.append_eq_nil_iff.mp h.symm
      exact htest
  | cons c cs ih =>
    rw [afterRun, Bool.or_eq_true, Bool.and_eq_true, ih]
    constructor
    · rintro (h | ⟨hc, run, rest, rfl, hrun, htest⟩)
      · exact ⟨[], c :: cs, rfl, by simp, h⟩
      · exact ⟨c :: run, rest, rfl, List.forall_mem_cons.mpr ⟨hc, hrun⟩, htest⟩
    · rintro ⟨run, rest, h, hrun, htest⟩
      cases run with
      | nil =>
        obtain rfl : c :: cs = rest := h
        exact .inl htest
      | cons d run =>
        obtain ⟨rfl, rfl⟩ := List.cons.inj h
        obtain ⟨hc, hrun⟩ := List.forall_mem_cons.mp hrun
        exact .inr ⟨hc, run, rest, rfl, hrun, htest⟩

end Marks

namespace NamePart

-- A character stands for itself where no placeholder begins, so no placeholder stays.
inductive Fills : List Char → List Char → Prop
  | nil : Fills [] []
  | word {w template name : List Char} (hw : w ≠ []) (hall : ∀ c ∈ w, Text.isWord c = true)
      (h : Fills template name) : Fills (wordPlaceholder ++ template) (w ++ name)
  | optionalWord {w template name : List Char} (hall : ∀ c ∈ w, Text.isWord c = true)
      (h : Fills template name) : Fills (optionalPlaceholder ++ template) (w ++ name)
  | itself {c : Char} {template name : List Char} (hword : ¬ wordPlaceholder <+: c :: template)
      (hoptional : ¬ optionalPlaceholder <+: c :: template) (h : Fills template name) :
      Fills (c :: template) (c :: name)

@[elab_as_elim]
theorem template_induction {motive : List Char → Prop} (nil : motive [])
    (word : ∀ template, motive template → motive (wordPlaceholder ++ template))
    (optionalWord : ∀ template, motive template → motive (optionalPlaceholder ++ template))
    (itself : ∀ c template, ¬ wordPlaceholder <+: c :: template →
      ¬ optionalPlaceholder <+: c :: template → motive template → motive (c :: template))
    (template : List Char) : motive template := by
  induction hlength : template.length using Nat.strongRecOn generalizing template with
  | ind n ih =>
    by_cases hword : wordPlaceholder <+: template
    · obtain ⟨rest, rfl⟩ := hword
      refine word rest (ih rest.length ?_ rest rfl)
      have hpos : wordPlaceholder.length = 6 := rfl
      rw [List.length_append] at hlength
      omega
    · by_cases hoptional : optionalPlaceholder <+: template
      · obtain ⟨rest, rfl⟩ := hoptional
        refine optionalWord rest (ih rest.length ?_ rest rfl)
        have hpos : optionalPlaceholder.length = 6 := rfl
        rw [List.length_append] at hlength
        omega
      · cases template with
        | nil => exact nil
        | cons c rest =>
          refine itself c rest hword hoptional (ih rest.length ?_ rest rfl)
          rw [← hlength, List.length_cons]
          exact Nat.lt_succ_self _

section Reading

variable (template : List Char)

theorem readFrom_word :
    readFrom 0 (wordPlaceholder ++ template) = word :: readFrom 0 template := rfl

theorem readFrom_optionalWord :
    readFrom 0 (optionalPlaceholder ++ template) = optionalWord :: readFrom 0 template := rfl

theorem readFrom_itself {c : Char} {template : List Char}
    (hword : ¬ wordPlaceholder <+: c :: template)
    (hoptional : ¬ optionalPlaceholder <+: c :: template) :
    readFrom 0 (c :: template) = literal c :: readFrom 0 template := by
  rw [readFrom, if_neg (by rwa [List.isPrefixOf_iff_prefix]),
    if_neg (by rwa [List.isPrefixOf_iff_prefix])]

end Reading

def StandsFor : NamePart → List Char → Prop
  | literal c, piece => piece = [c]
  | word, piece => piece ≠ [] ∧ ∀ c ∈ piece, Text.isWord c = true
  | optionalWord, piece => ∀ c ∈ piece, Text.isWord c = true

inductive Spells : List NamePart → List Char → Prop
  | nil : Spells [] []
  | cons {part : NamePart} {parts : List NamePart} {piece name : List Char}
      (hpart : part.StandsFor piece) (h : Spells parts name) :
      Spells (part :: parts) (piece ++ name)

theorem fills_iff_spells {template name : List Char} :
    Fills template name ↔ Spells (readFrom 0 template) name := by
  constructor
  · intro h
    induction h with
    | nil => exact .nil
    | word hw hall _ ih => exact .cons ⟨hw, hall⟩ ih
    | optionalWord hall _ ih => exact .cons hall ih
    | @itself c template name hword hoptional _ ih =>
      have hpart : (literal c).StandsFor [c] := rfl
      rw [readFrom_itself hword hoptional]
      exact .cons hpart ih
  · intro h
    induction template using template_induction generalizing name with
    | nil =>
      cases h
      exact .nil
    | word template ih =>
      rw [readFrom_word] at h
      cases h with
      | cons hpart h => exact .word hpart.1 hpart.2 (ih h)
    | optionalWord template ih =>
      rw [readFrom_optionalWord] at h
      cases h with
      | cons hpart h => exact .optionalWord hpart (ih h)
    | itself c template hword hoptional ih =>
      rw [readFrom_itself hword hoptional] at h
      cases h with
      | cons hpart h =>
        obtain rfl := hpart
        exact .itself hword hoptional (ih h)

def afterParts (test : List Char → Bool) : List NamePart → List Char → Bool
  | [] => test
  | literal c :: rest => Marks.afterOne (c == ·) (afterParts test rest)
  | optionalWord :: rest => Marks.afterRun Text.isWord (afterParts test rest)
  | word :: rest => Marks.afterOne Text.isWord (Marks.afterRun Text.isWord (afterParts test rest))

theorem matchAll_eq_afterParts (parts : List NamePart) :
    matchAll parts = afterParts List.isEmpty parts := by
  induction parts with
  | nil =>
    funext s
    rfl
  | cons part rest ih =>
    funext s
    cases part <;> simp only [matchAll, afterParts, ih]

theorem afterParts_iff {test : List Char → Bool} {parts : List NamePart} {s : List Char} :
    afterParts test parts s = true ↔
      ∃ name rest, s = name ++ rest ∧ Spells parts name ∧ test rest = true := by
  induction parts generalizing s with
  | nil =>
    constructor
    · intro h
      exact ⟨[], s, rfl, .nil, h⟩
    · rintro ⟨name, rest, rfl, h, htest⟩
      cases h
      exact htest
  | cons part parts ih =>
    have hsplit : afterParts test (part :: parts) s = true ↔
        ∃ piece rest, s = piece ++ rest ∧ part.StandsFor piece ∧
          afterParts test parts rest = true := by
      cases part with
      | literal c =>
        rw [afterParts, Marks.afterOne_iff]
        simp [StandsFor]
      | optionalWord =>
        rw [afterParts, Marks.afterRun_iff]
        rfl
      | word =>
        rw [afterParts, Marks.afterOne_iff]
        constructor
        · rintro ⟨c, more, rfl, hc, h⟩
          obtain ⟨run, rest, rfl, hrun, h⟩ := Marks.afterRun_iff.mp h
          exact ⟨c :: run, rest, rfl, ⟨by simp, List.forall_mem_cons.mpr ⟨hc, hrun⟩⟩, h⟩
        · rintro ⟨piece, rest, rfl, ⟨hne, hall⟩, h⟩
          obtain ⟨c, run, rfl⟩ := List.exists_cons_of_ne_nil hne
          obtain ⟨hc, hrun⟩ := List.forall_mem_cons.mp hall
          exact ⟨c, run ++ rest, rfl, hc, Marks.afterRun_iff.mpr ⟨run, rest, rfl, hrun, h⟩⟩
    rw [hsplit]
    constructor
    · rintro ⟨piece, more, rfl, hpart, h⟩
      obtain ⟨name, rest, rfl, hspells, htest⟩ := ih.mp h
      exact ⟨piece ++ name, rest, by simp, .cons hpart hspells, htest⟩
    · rintro ⟨name, rest, rfl, h, htest⟩
      cases h with
      | @cons _ _ piece name hpart h =>
        exact ⟨piece, name ++ rest, by simp, hpart, ih.mpr ⟨name, rest, rfl, h, htest⟩⟩

theorem covers_iff {parts : List NamePart} {name : List Char} :
    covers parts name = true ↔ Spells parts name := by
  rw [covers_eq_matchAll, matchAll_eq_afterParts, afterParts_iff]
  constructor
  · rintro ⟨whole, rest, rfl, h, hrest⟩
    obtain rfl := List.isEmpty_iff.mp hrest
    rwa [List.append_nil]
  · intro h
    exact ⟨name, [], by simp, h, rfl⟩

theorem matchesName_iff {template name : String} :
    matchesName template name = true ↔ Fills template.toList name.toList ∨
      ∃ bare, name.toList = bare ++ ['\n'] ∧ Fills template.toList bare := by
  rw [matchesName, Bool.or_eq_true, Bool.and_eq_true, covers_iff, covers_iff, decide_eq_true_iff,
    List.getLast?_eq_some_iff, read, ← fills_iff_spells, ← fills_iff_spells]
  refine or_congr_right ?_
  constructor
  · rintro ⟨⟨bare, hbare⟩, h⟩
    rw [hbare, List.dropLast_concat] at h
    exact ⟨bare, hbare, h⟩
  · rintro ⟨bare, hbare, h⟩
    rw [hbare, List.dropLast_concat]
    exact ⟨⟨bare, rfl⟩, h⟩

end NamePart

end DesignLint
