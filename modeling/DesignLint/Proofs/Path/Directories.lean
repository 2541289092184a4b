import DesignLint.Path.Layers
import DesignLint.Proofs.Diagnostic.Findings

namespace DesignLint

namespace Text

theorem split_of_not_mem {separator : Char} {s : List Char} (h : separator ∉ s) :
    split separator s = [s] := by
  induction s with
  | nil => rfl
  | cons c cs ih =>
    have hc : c ≠ separator := fun e => h (by simp [e])
    have hcs : separator ∉ cs := fun hm => h (by simp [hm])
    rw [split, if_neg hc, ih hcs]

theorem split_append_cons {separator : Char} {s : List Char} (h : separator ∉ s)
    (rest : List Char) : split separator (s ++ separator :: rest) = s :: split separator rest := by
  induction s with
  | nil => rw [List.nil_append, split, if_pos rfl]
  | cons c cs ih =>
    have hc : c ≠ separator := fun e => h (by simp [e])
    have hcs : separator ∉ cs := fun hm => h (by simp [hm])
    rw [List.cons_append, split, if_neg hc, ih hcs]

end Text

namespace Path

-- Up to its first slash a path is a segment; what follows is a shorter path.
theorem segment_induction {motive : List Char → Prop} (last : ∀ s, '/' ∉ s → motive s)
    (cons : ∀ s rest, '/' ∉ s → motive rest → motive (s ++ '/' :: rest)) (path : List Char) :
    motive path := by
  by_cases h : '/' ∈ path
  · obtain ⟨s, rest, hpath, hs⟩ := List.eq_append_cons_of_mem h
    have hshort : rest.length < path.length := by
      rw [hpath, List.length_append, List.length_cons]
      omega
    rw [hpath]
    exact cons s rest hs (segment_induction last cons rest)
  · exact last path h
termination_by path.length

theorem eq_of_first_slash {s t u v : List Char} (hs : '/' ∉ s) (ht : '/' ∉ t)
    (h : s ++ '/' :: u = t ++ '/' :: v) : s = t ∧ u = v := by
  have hsplit := congrArg (Text.split '/') h
  rw [Text.split_append_cons hs, Text.split_append_cons ht] at hsplit
  obtain rfl := (List.cons.inj hsplit).1
  exact ⟨rfl, by simpa using h⟩

def directories (path : List Char) : List (List Char) :=
  (Text.split '/' path).dropLast

theorem directories_of_not_mem {path : List Char} (h : '/' ∉ path) : directories path = [] := by
  rw [directories, Text.split_of_not_mem h, List.dropLast_singleton]

theorem directories_append_cons {segment : List Char} (h : '/' ∉ segment) (rest : List Char) :
    directories (segment ++ '/' :: rest) = segment :: directories rest := by
  rw [directories, Text.split_append_cons h, List.dropLast_cons_of_ne_nil (Text.split_ne_nil _ _),
    directories]

theorem directories_append {extension : List Char} (h : '/' ∉ extension) (path : List Char) :
    directories (path ++ extension) = directories path := by
  induction path using segment_induction with
  | last s hs =>
    have happend : '/' ∉ s ++ extension := by simp [hs, h]
    rw [directories_of_not_mem happend, directories_of_not_mem hs]
  | cons s rest hs ih =>
    rw [List.append_assoc, List.cons_append, directories_append_cons hs,
      directories_append_cons hs, ih]

theorem mem_directories_iff {name : List Char} (hname : '/' ∉ name) (path : List Char) :
    name ∈ directories path ↔
      (∃ after, path = name ++ '/' :: after) ∨
        ∃ before after, path = before ++ '/' :: (name ++ '/' :: after) := by
  induction path using segment_induction with
  | last s hs =>
    rw [directories_of_not_mem hs]
    refine iff_of_false List.not_mem_nil ?_
    rintro (⟨after, rfl⟩ | ⟨before, after, rfl⟩)
    · simp at hs
    · simp at hs
  | cons s rest hs ih =>
    rw [directories_append_cons hs, List.mem_cons, ih]
    constructor
    · rintro (rfl | ⟨after, rfl⟩ | ⟨before, after, rfl⟩)
      · exact .inl ⟨rest, rfl⟩
      · exact .inr ⟨s, after, rfl⟩
      · exact .inr ⟨s ++ '/' :: before, after, by simp⟩
    · rintro (⟨after, h⟩ | ⟨before, after, h⟩)
      · exact .inl (eq_of_first_slash hs hname h).1.symm
      · -- the slash before the name is the first one, or stands behind it
        by_cases hb : '/' ∈ before
        · obtain ⟨t, before, rfl, ht⟩ := List.eq_append_cons_of_mem hb
          rw [List.append_assoc, List.cons_append] at h
          exact .inr (.inr ⟨before, after, (eq_of_first_slash hs ht h).2⟩)
        · exact .inr (.inl ⟨after, (eq_of_first_slash hs hb h).2⟩)

theorem slashed_of_not_mem {path : List Char} (h : '\\' ∉ path) : slashed path = path := by
  refine (List.map_congr_left fun c hc => ?_).trans (List.map_id path)
  exact if_neg fun (e : c = '\\') => h (e ▸ hc)

theorem eq_append_slash {path extension rest : List Char} (h : '/' ∉ extension) (head : List Char)
    (he : path ++ extension = head ++ '/' :: rest) : ∃ r, path = head ++ '/' :: r := by
  obtain ⟨r, -, hext⟩ | ⟨r, rfl, hr⟩ := List.append_eq_append_iff.mp he
  · exact absurd (by simp [hext]) h
  · cases r with
    | nil => exact absurd (by simp [← hr.trans (List.nil_append _)]) h
    | cons c r =>
      obtain ⟨rfl, -⟩ := List.cons.inj hr
      exact ⟨r, rfl⟩

theorem dropDots_append {extension : List Char} (h : '/' ∉ extension) (path : List Char) :
    dropDots (path ++ extension) = dropDots path ++ extension := by
  fun_induction dropDots path with
  | case1 rest ih => exact ih
  | case2 rest ih => exact ih
  | case3 path hone htwo =>
    -- a slash near the head of the longer path stands in the shorter one already
    refine dropDots.eq_3 _ ?_ ?_
    · intro rest he
      obtain ⟨r, hr⟩ := eq_append_slash h ['.'] he
      exact hone r hr
    · intro rest he
      obtain ⟨r, hr⟩ := eq_append_slash h ['.', '.'] he
      exact htwo r hr

def IsStem (stem path : List Char) : Prop :=
  ∃ extension, '/' ∉ extension ∧ path = stem ++ extension

theorem IsStem.directories_comparable {stem path : List Char} (h : IsStem stem path)
    (slashes : '\\' ∉ path) : directories (comparable stem) = directories (comparable path) := by
  obtain ⟨extension, hext, rfl⟩ := h
  have hstem : '\\' ∉ stem := fun hm => slashes (List.mem_append_left _ hm)
  rw [comparable, comparable, slashed_of_not_mem slashes, slashed_of_not_mem hstem,
    dropDots_append hext, directories_append hext]

end Path

namespace Glob

theorem matchItems_literal {c : Char} {rest : List Item} {s : List Char} :
    matchItems (.literal c :: rest) s = true ↔
      ∃ after, s = c :: after ∧ matchItems rest after = true := by
  cases s with
  | nil => simp [matchItems, Marks.afterOne]
  | cons d ds =>
    rw [matchItems, Marks.afterOne, Bool.and_eq_true, Item.admits, beq_iff_eq]
    · constructor
      · rintro ⟨rfl, h⟩
        exact ⟨ds, rfl, h⟩
      · rintro ⟨after, he, h⟩
        obtain ⟨rfl, rfl⟩ := List.cons.inj he
        exact ⟨rfl, h⟩
    · simp

theorem matchItems_literals {word : List Char} {rest : List Item} {s : List Char} :
    matchItems (word.map .literal ++ rest) s = true ↔
      ∃ after, s = word ++ after ∧ matchItems rest after = true := by
  induction word generalizing s with
  | nil => simp
  | cons c cs ih =>
    rw [List.map_cons, List.cons_append, matchItems_literal]
    simp only [ih]
    constructor
    · rintro ⟨_, rfl, after, rfl, h⟩
      exact ⟨after, rfl, h⟩
    · rintro ⟨after, rfl, h⟩
      exact ⟨cs ++ after, rfl, after, rfl, h⟩

def IsPlain (c : Char) : Prop :=
  c ≠ '*' ∧ c ≠ '?' ∧ c ≠ '['

instance (c : Char) : Decidable (IsPlain c) :=
  inferInstanceAs (Decidable (_ ∧ _))

theorem itemsFrom_append {word : List Char} (h : ∀ c ∈ word, IsPlain c) (rest : List Char) :
    itemsFrom 0 (word ++ rest) = word.map .literal ++ itemsFrom 0 rest := by
  induction word with
  | nil => rfl
  | cons c cs ih =>
    obtain ⟨hstar, hmark, hbracket⟩ := h c (by simp)
    rw [List.cons_append, itemsFrom, ih fun d hd => h d (by simp [hd]), List.map_cons,
      List.cons_append]
    · exact hstar
    · exact hmark
    · exact hbracket

def directory (name : List Char) : List Char :=
  '*' :: '*' :: '/' :: (name ++ ['/', '*', '*'])

theorem matchesPath_directory {name : List Char} (plain : ∀ c ∈ name, IsPlain c)
    (hname : '/' ∉ name) (path : List Char) :
    matchesPath path (directory name) = true ↔ name ∈ Path.directories path := by
  have hitems : itemsFrom 0 (name ++ ['/', '*', '*']) =
      name.map .literal ++ [.literal '/', .many] := itemsFrom_append plain _
  have hwhole : itemsFrom 0 (directory name) =
      .many :: .literal '/' :: (name.map .literal ++ [.literal '/', .many]) := by
    rw [← hitems]
    rfl
  have hrest (s : List Char) : matchItems (name.map .literal ++ [.literal '/', .many]) s = true ↔
      ∃ after, s = name ++ '/' :: after := by
    rw [matchItems_literals]
    constructor
    · rintro ⟨_, rfl, h⟩
      obtain ⟨after, rfl, -⟩ := matchItems_literal.mp h
      exact ⟨after, rfl⟩
    · rintro ⟨after, rfl⟩
      have hmany : matchItems [.many] after = true :=
        matchItems_many.mpr ⟨after, [], (List.append_nil _).symm, rfl⟩
      exact ⟨'/' :: after, rfl, matchItems_literal.mpr ⟨after, rfl, hmany⟩⟩
  have hpath : matchesPath path (directory name) =
      (matches? (directory name) path || matches? (name ++ ['/', '*', '*']) path) := rfl
  rw [hpath, Bool.or_eq_true, Path.mem_directories_iff hname, or_comm]
  refine or_congr ?_ ?_
  · rw [matches?, covers_eq_matchItems, hitems, hrest]
  · rw [matches?, covers_eq_matchItems, hwhole, matchItems_many]
    constructor
    · rintro ⟨before, _, rfl, h⟩
      obtain ⟨_, rfl, h⟩ := matchItems_literal.mp h
      obtain ⟨after, rfl⟩ := (hrest _).mp h
      exact ⟨before, after, rfl⟩
    · rintro ⟨before, after, rfl⟩
      exact ⟨before, _, rfl, matchItems_literal.mpr ⟨_, rfl, (hrest _).mpr ⟨after, rfl⟩⟩⟩

def directoryName (glob : List Char) : List Char :=
  (glob.drop 3).take (glob.length - 6)

def IsDirectory (glob : List Char) : Prop :=
  glob = directory (directoryName glob) ∧ ∀ c ∈ directoryName glob, IsPlain c ∧ c ≠ '/'

instance (glob : List Char) : Decidable (IsDirectory glob) :=
  decidable_of_iff (glob = directory (directoryName glob) ∧
    (directoryName glob).all fun c => IsPlain c ∧ c ≠ '/') (by simp [IsDirectory])

theorem IsDirectory.matchesPath_eq {glob a b : List Char} (h : IsDirectory glob)
    (hab : Path.directories a = Path.directories b) : matchesPath a glob = matchesPath b glob := by
  obtain ⟨hglob, hname⟩ := h
  have hslash : '/' ∉ directoryName glob := fun hm => (hname _ hm).2 rfl
  rw [Bool.eq_iff_iff, hglob, matchesPath_directory (fun c hc => (hname c hc).1) hslash,
    matchesPath_directory (fun c hc => (hname c hc).1) hslash, hab]

end Glob

namespace PathClassifier

def GoesByDirectory (layers : List Layer) : Prop :=
  ∀ l ∈ layers, ∀ v ∈ l.patterns, ∃ g ∈ v.asText?, Glob.IsDirectory g.toList

instance (layers : List Layer) : Decidable (GoesByDirectory layers) :=
  inferInstanceAs (Decidable (∀ l ∈ layers, ∀ v ∈ l.patterns, _))

variable {c : PathClassifier}

theorem aliasFor_of_aliases (h : c.aliases = []) (path : String) : c.aliasFor path = none := by
  rw [aliasFor, h, List.find?_nil]

theorem resolveAlias_of_aliases (h : c.aliases = []) (path : String) :
    c.resolveAlias path = path := by
  rw [resolveAlias, aliasFor_of_aliases h]

theorem classify_eq_of_directories (haliases : c.aliases = []) (hlayers : GoesByDirectory c.layers)
    {a b : String} (ha : a ≠ "") (hb : b ≠ "")
    (hab : Path.directories (Path.comparable a.toList) =
      Path.directories (Path.comparable b.toList)) : c.classify a = c.classify b := by
  rw [classify, classify, if_neg ha, if_neg hb, resolveAlias_of_aliases haliases,
    resolveAlias_of_aliases haliases]
  refine Trial.find?_congr fun l hl => Trial.any_congr fun v hv => ?_
  obtain ⟨g, hg, hdirectory⟩ := hlayers l hl v hv
  obtain rfl := Value.asText?_eq_some.mp hg
  exact congrArg Except.ok (hdirectory.matchesPath_eq hab)

def layer? (c : PathClassifier) (path : String) : Option Layer :=
  (c.classify path).toOption.join

theorem mem_layer?_iff {path : String} {l : Layer} :
    l ∈ c.layer? path ↔ c.classify path = .ok (some l) := by
  rw [layer?]
  cases c.classify path with
  | error misfit => simp [Except.toOption]
  | ok found => simp [Except.toOption]

theorem mem_layer?_of_stem (haliases : c.aliases = []) (hlayers : GoesByDirectory c.layers)
    {stem path : String} (h : Path.IsStem stem.toList path.toList)
    (slashes : '\\' ∉ path.toList) {l : Layer} (hl : l ∈ c.layer? stem) : l ∈ c.layer? path := by
  have hstem : stem ≠ "" := by
    rintro rfl
    cases hl
  have hpath : path ≠ "" := by
    rintro rfl
    obtain ⟨extension, -, he⟩ := h
    exact hstem (String.toList_inj.mp (List.append_eq_nil_iff.mp he.symm).1)
  have hclassify := classify_eq_of_directories haliases hlayers hstem hpath
    (h.directories_comparable slashes)
  rwa [layer?, ← hclassify]

end PathClassifier

end DesignLint
