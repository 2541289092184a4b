import DesignLint.Proofs.Rule.Directories

namespace DesignLint

namespace Text

def swapFirst (old new : List Char) (admits : List Char → Bool) : List Char → List Char
  | [] => []
  | c :: cs =>
    if old.isPrefixOf (c :: cs) && admits ((c :: cs).drop old.length) then
      new ++ (c :: cs).drop old.length
    else c :: swapFirst old new admits cs

theorem replaceFirst_eq_swapFirst {needle : List Char} (hne : needle ≠ []) (new s : List Char) :
    replaceFirst needle new s = swapFirst needle new (fun _ => true) s := by
  induction s with
  | nil => simp [replaceFirst, swapFirst, hne]
  | cons c cs ih => rw [replaceFirst, swapFirst, Bool.and_true, ih]

def HasPlace (old : List Char) (admits : List Char → Bool) (s : List Char) : Prop :=
  ∃ before after, s = before ++ old ++ after ∧ admits after = true

theorem swapFirst_cases {old : List Char} (hne : old ≠ []) (new : List Char)
    (admits : List Char → Bool) (s : List Char) :
    (¬ HasPlace old admits s ∧ swapFirst old new admits s = s) ∨
      ∃ before after, s = before ++ old ++ after ∧ admits after = true ∧
        swapFirst old new admits s = before ++ new ++ after := by
  induction s with
  | nil =>
    refine .inl ⟨?_, rfl⟩
    rintro ⟨before, after, h, -⟩
    simp_all
  | cons c cs ih =>
    rw [swapFirst]
    split
    · next h =>
      rw [Bool.and_eq_true, List.isPrefixOf_iff_prefix] at h
      obtain ⟨⟨after, hafter⟩, hadmits⟩ := h
      rw [← hafter, List.drop_left] at hadmits ⊢
      exact .inr ⟨[], after, rfl, hadmits, rfl⟩
    · next h =>
      rcases ih with ⟨hnone, heq⟩ | ⟨before, after, rfl, hadmits, heq⟩
      · refine .inl ⟨?_, by rw [heq]⟩
        rintro ⟨before, after, hs, hadmits⟩
        cases before with
        | nil =>
          apply h
          rw [hs, List.nil_append, List.drop_left, hadmits, Bool.and_true,
            List.isPrefixOf_iff_prefix]
          exact List.prefix_append old after
        | cons b before =>
          obtain ⟨-, hcs⟩ := List.cons.inj hs
          exact hnone ⟨before, after, hcs, hadmits⟩
      · exact .inr ⟨c :: before, after, rfl, hadmits, by rw [heq]; rfl⟩

end Text

namespace Inversion

theorem stripSuffix_eq_swapFirst (suffix path : List Char) :
    stripSuffix suffix path = Text.swapFirst suffix [] isExtension path := by
  induction path with
  | nil => rfl
  | cons c cs ih => rw [stripSuffix, Text.swapFirst, ih, List.nil_append]

theorem stripSuffix_nil (path : List Char) : stripSuffix [] path = path := by
  induction path with
  | nil => rfl
  | cons c cs ih =>
    rw [stripSuffix, ih]
    split <;> rfl

def closes (rest : List Char) : Bool :=
  rest = [] || rest = ['\n']

theorem replaceAtEnd_cases (needle new s : List Char) :
    (¬ Text.HasPlace needle closes s ∧ replaceAtEnd needle new s = s) ∨
      ∃ before after, s = before ++ needle ++ after ∧ closes after = true ∧
        replaceAtEnd needle new s = before ++ new ++ after := by
  rw [replaceAtEnd]
  split
  · next h =>
    obtain ⟨before, rfl⟩ := List.isSuffixOf_iff_suffix.mp h
    exact .inr ⟨before, [], by simp, rfl, by simp⟩
  · next hend =>
    split
    · next h =>
      obtain ⟨hlast, hsuffix⟩ := h
      obtain ⟨t, rfl⟩ := List.getLast?_eq_some_iff.mp hlast
      rw [List.dropLast_concat] at hsuffix
      obtain ⟨before, rfl⟩ := List.isSuffixOf_iff_suffix.mp hsuffix
      exact .inr ⟨before, ['\n'], rfl, rfl, by simp⟩
    · next hline =>
      refine .inl ⟨?_, rfl⟩
      rintro ⟨before, after, rfl, hafter⟩
      simp only [closes, Bool.or_eq_true, decide_eq_true_eq] at hafter
      rcases hafter with rfl | rfl
      · simp at hend
      · simp at hline

def interfaces : List Char := "interfaces".toList

inductive Edit where
  | directory (name : String)
  | lastSegment (name : String)
  | suffix (word : String)

namespace Edit

def old : Edit → List Char
  | directory name => '/' :: name.toList ++ ['/']
  | lastSegment name => '/' :: name.toList
  | suffix word => word.toList

def new : Edit → List Char
  | directory _ => "/interfaces/".toList
  | lastSegment _ => "/interfaces".toList
  | suffix _ => []

theorem new_directory (name : String) :
    (directory name).new = '/' :: (interfaces ++ ['/']) :=
  (by decide : "/interfaces/".toList = '/' :: (interfaces ++ ['/']))

theorem new_lastSegment (name : String) : (lastSegment name).new = '/' :: interfaces :=
  (by decide : "/interfaces".toList = '/' :: interfaces)

theorem new_suffix (word : String) : (suffix word).new = [] := rfl

def admits : Edit → List Char → Bool
  | directory _ => fun _ => true
  | lastSegment _ => closes
  | suffix _ => isExtension

def apply (e : Edit) : List Char → List Char :=
  match e with
  | directory _ => Text.replaceFirst e.old e.new
  | lastSegment _ => replaceAtEnd e.old e.new
  | suffix _ => stripSuffix e.old

def Occurs (e : Edit) (path : List Char) : Prop :=
  e.old ≠ [] ∧ Text.HasPlace e.old e.admits path

theorem apply_cases (e : Edit) (path : List Char) :
    (¬ e.Occurs path ∧ e.apply path = path) ∨
      ∃ before after, e.old ≠ [] ∧ path = before ++ e.old ++ after ∧ e.admits after = true ∧
        e.apply path = before ++ e.new ++ after := by
  by_cases hne : e.old = []
  · -- only a suffix can be empty
    refine .inl ⟨fun h => h.1 hne, ?_⟩
    cases e with
    | directory name => simp [old] at hne
    | lastSegment name => simp [old] at hne
    | suffix word => rw [apply, hne, stripSuffix_nil]
  · have hcases : (¬ Text.HasPlace e.old e.admits path ∧ e.apply path = path) ∨
        ∃ before after, path = before ++ e.old ++ after ∧ e.admits after = true ∧
          e.apply path = before ++ e.new ++ after := by
      cases e with
      | directory name =>
        rw [apply, Text.replaceFirst_eq_swapFirst hne]
        exact Text.swapFirst_cases hne _ _ path
      | lastSegment name => exact replaceAtEnd_cases _ _ path
      | suffix word =>
        rw [apply, stripSuffix_eq_swapFirst]
        exact Text.swapFirst_cases hne _ _ path
    rcases hcases with ⟨hnone, heq⟩ | ⟨before, after, hpath, hadmits, heq⟩
    · exact .inl ⟨fun h => hnone h.2, heq⟩
    · exact .inr ⟨before, after, hne, hpath, hadmits, heq⟩

def run (edits : List Edit) (path : List Char) : List Char :=
  edits.foldl (fun p e => e.apply p) path

theorem run_cons (e : Edit) (rest : List Edit) (path : List Char) :
    run (e :: rest) path = run rest (e.apply path) := rfl

theorem run_append (es fs : List Edit) (path : List Char) :
    run (es ++ fs) path = run fs (run es path) :=
  List.foldl_append

-- Each directory of implementations has more of these letters than what takes its place.
def weight (path : List Char) : Nat :=
  7 * (path.count 'm' + path.count 'o') + path.length

theorem weight_append (a b : List Char) : weight (a ++ b) = weight a + weight b := by
  simp only [weight, List.count_append, List.length_append]
  omega

theorem weight_pos {path : List Char} (h : path ≠ []) : 0 < weight path := by
  have hlength := List.length_pos_of_ne_nil h
  rw [weight]
  omega

def Lightens (e : Edit) : Prop :=
  e.old ≠ [] → weight e.new < weight e.old

theorem Lightens.apply_cases {e : Edit} (h : e.Lightens) (path : List Char) :
    (¬ e.Occurs path ∧ e.apply path = path) ∨
      (e.Occurs path ∧ weight (e.apply path) < weight path) := by
  rcases e.apply_cases path with hnone | ⟨before, after, hne, hpath, hadmits, heq⟩
  · exact .inl hnone
  · have hlighter := h hne
    refine .inr ⟨⟨hne, before, after, hpath, hadmits⟩, ?_⟩
    rw [heq, hpath]
    simp only [weight_append]
    omega

theorem weight_run_le {edits : List Edit} (h : ∀ e ∈ edits, e.Lightens) (path : List Char) :
    weight (run edits path) ≤ weight path := by
  induction edits generalizing path with
  | nil => exact Nat.le_refl _
  | cons e rest ih =>
    have hrest := ih (fun f hf => h f (List.mem_cons_of_mem e hf)) (e.apply path)
    rw [run_cons]
    rcases (h e List.mem_cons_self).apply_cases path with ⟨-, heq⟩ | ⟨-, hlt⟩
    · rwa [heq] at hrest ⊢
    · omega

-- An edit that found a place made the path lighter, and no later one makes it heavier again.
theorem run_eq_self_iff {edits : List Edit} (h : ∀ e ∈ edits, e.Lightens) (path : List Char) :
    run edits path = path ↔ ∀ e ∈ edits, ¬ e.Occurs path := by
  induction edits with
  | nil => simp [run]
  | cons e rest ih =>
    have hrest : ∀ f ∈ rest, f.Lightens := fun f hf => h f (List.mem_cons_of_mem e hf)
    rw [run_cons, List.forall_mem_cons]
    rcases (h e List.mem_cons_self).apply_cases path with ⟨hnone, heq⟩ | ⟨hoccurs, hlt⟩
    · rw [heq, ih hrest, and_iff_right hnone]
    · refine iff_of_false (fun hsame => ?_) (fun hnone => hnone.1 hoccurs)
      have hle := weight_run_le hrest (e.apply path)
      rw [hsame] at hle
      omega

end Edit

def Settings.edits (o : Settings) : List Edit :=
  concreteDirectories.map .directory ++ concreteDirectories.map .lastSegment ++
    (o.suffixes.filterMap Value.asText?).map .suffix

theorem lightens_of_mem_edits {o : Settings} {e : Edit} (he : e ∈ o.edits) : e.Lightens := by
  have hdirectories : ∀ e ∈ concreteDirectories.map Edit.directory ++
      concreteDirectories.map Edit.lastSegment, Edit.weight e.new < Edit.weight e.old := by
    decide
  intro hne
  rcases List.mem_append.mp he with he | he
  · exact hdirectories e he
  · obtain ⟨word, -, rfl⟩ := List.mem_map.mp he
    exact Edit.weight_pos hne

theorem eq_run_of_stripSuffixes {suffixes : List Value} {path result : List Char}
    (h : stripSuffixes suffixes path = .ok result) :
    result = Edit.run ((suffixes.filterMap Value.asText?).map .suffix) path := by
  induction suffixes generalizing path with
  | nil => exact (Except.ok.inj h).symm
  | cons v rest ih =>
    rw [stripSuffixes] at h
    cases v with
    | text word => exact ih h
    | _ => cases h

theorem abstractDirectories_eq_run (path : List Char) :
    abstractDirectories path =
      Edit.run (concreteDirectories.map .directory ++ concreteDirectories.map .lastSegment)
        path := rfl

theorem eq_run_edits {o : Settings} {path result : List Char}
    (h : stripSuffixes o.suffixes (abstractDirectories path) = .ok result) :
    result = Edit.run o.edits path := by
  rw [Settings.edits, Edit.run_append, ← abstractDirectories_eq_run]
  exact eq_run_of_stripSuffixes h

end Inversion

end DesignLint
