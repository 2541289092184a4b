import DesignLint.Proofs.Workspace.Places

namespace DesignLint.Workspace

theorem segmentsLe_iff (a b : List String) :
    segmentsLe a b = true ↔ a.map Text.codes ≤ b.map Text.codes := by
  rw [← not_lt]
  induction a generalizing b with
  | nil => simp [segmentsLe]
  | cons x xs ih =>
    cases b with
    | nil => simp [segmentsLe]
    | cons y ys =>
      rw [segmentsLe, List.map_cons, List.map_cons, List.cons_lt_cons_iff]
      by_cases hxy : x = y
      · subst hxy
        simp [ih]
      · have hne : Text.codes y ≠ Text.codes x := fun h => hxy (Text.codes_injective h).symm
        rw [if_neg hxy, Text.precedes_iff, ← not_lt]
        simp [hne]

theorem append_le_append (c : List String) {a b : List String}
    (h : a.map Text.codes ≤ b.map Text.codes) :
    (c ++ a).map Text.codes ≤ (c ++ b).map Text.codes := by
  rw [← not_lt] at h ⊢
  induction c with
  | nil => exact h
  | cons x xs ih =>
    rw [List.cons_append, List.cons_append, List.map_cons, List.map_cons, List.cons_lt_cons_iff]
    simpa using ih

theorem pairwise_waysBelow (w : Workspace) (dir : List String) :
    (w.waysBelow dir).Pairwise fun a b => a.map Text.codes ≤ b.map Text.codes := by
  have htrans (a b c : List String) (hab : segmentsLe a b) (hbc : segmentsLe b c) :
      segmentsLe a c := by
    rw [segmentsLe_iff] at *
    exact le_trans hab hbc
  have htotal (a b : List String) : segmentsLe a b || segmentsLe b a := by
    rw [Bool.or_eq_true, segmentsLe_iff, segmentsLe_iff]
    exact le_total _ _
  apply (List.pairwise_mergeSort htrans htotal _).imp
  intro a b h
  exact (segmentsLe_iff a b).mp h

theorem mem_waysBelow {w : Workspace} {dir way : List String} :
    way ∈ w.waysBelow dir ↔ way ≠ [] ∧ w.IsFile (dir ++ way) := by
  simp only [waysBelow, List.mem_mergeSort, List.mem_map, List.mem_filter, Bool.and_eq_true,
    List.isPrefixOf_iff_prefix, bne_iff_ne, IsFile]
  constructor
  · rintro ⟨e, ⟨he, ⟨rest, hrest⟩, hne⟩, rfl⟩
    rw [← hrest, List.drop_left]
    refine ⟨?_, e, he, hrest.symm⟩
    rintro rfl
    exact hne (by simpa using hrest)
  · rintro ⟨hne, e, he, hplace⟩
    refine ⟨e, ⟨he, ⟨way, hplace.symm⟩, ?_⟩, by rw [hplace, List.drop_left]⟩
    rw [hplace]
    simpa using hne

def IsSource (w : Workspace) (place : List String) : Prop :=
  w.IsFile place ∧ (Segments.mk "/" place).language?.isSome = true

inductive StandsFor (w : Workspace) (p : Segments) (place : List String) : Prop
  | itself (resolved : w.resolve? p = some place) (source : w.IsSource place)
  | below {dir way : List String} (resolved : w.resolve? p = some dir)
      (directory : w.isDirectory dir = true) (placed : place = dir ++ way)
      (source : w.IsSource place) (included : ∀ name ∈ way, name ∉ excludedNames)

def places (w : Workspace) (files : List Segments) : List (List String) :=
  files.filterMap w.resolve?

theorem mem_places {w : Workspace} {files : List Segments} {place : List String} :
    place ∈ w.places files ↔ ∃ q ∈ files, w.resolve? q = some place :=
  List.mem_filterMap

section Candidates

variable {w : Workspace} {p q : Segments} {place dir : List String}

theorem language?_of_place (h : q.parts.getLast? = place.getLast?) :
    q.language? = (Segments.mk "/" place).language? :=
  Segments.language?_congr h

theorem candidates_of_file (fs : w.IsFileSystem) (h : w.resolve? p = some place)
    (hfile : w.IsFile place) :
    w.candidates p = if (Segments.mk "/" place).language?.isSome then [p] else [] := by
  have hlast := getLast?_of_resolve? h (fs.not_isDirectory hfile)
  rw [candidates, h]
  dsimp only
  rw [if_pos (isSome_file?_iff.mpr hfile), language?_of_place hlast]

theorem mem_candidates_of_directory (fs : w.IsFileSystem) (h : w.resolve? p = some dir)
    (hdir : w.isDirectory dir = true) :
    q ∈ w.candidates p ↔ ∃ way, q = ⟨p.root, p.parts ++ way⟩ ∧ w.IsSource (dir ++ way) ∧
      ∀ name ∈ way, name ∉ excludedNames := by
  have hnot : ¬ w.IsFile dir := by
    intro hfile
    rw [fs.not_isDirectory hfile] at hdir
    cases hdir
  have hlast {way : List String} (hne : way ≠ []) :
      (Segments.mk p.root (p.parts ++ way)).language? =
        (Segments.mk "/" (dir ++ way)).language? := by
    apply language?_of_place
    rw [List.getLast?_append_of_ne_nil _ hne, List.getLast?_append_of_ne_nil _ hne]
  rw [candidates, h]
  dsimp only
  rw [if_neg (mt isSome_file?_iff.mp hnot), List.mem_filterMap]
  simp only [List.mem_filter, mem_waysBelow]
  constructor
  · rintro ⟨way, ⟨⟨hne, hfile⟩, hincluded⟩, hq⟩
    rw [hlast hne] at hq
    split at hq
    · next hsource =>
      exact ⟨way, (Option.some.inj hq).symm, ⟨hfile, hsource⟩, by simpa using hincluded⟩
    · cases hq
  · rintro ⟨way, rfl, hsource, hincluded⟩
    have hne : way ≠ [] := by
      rintro rfl
      exact hnot (by simpa using hsource.1)
    refine ⟨way, ⟨⟨hne, hsource.1⟩, by simpa using hincluded⟩, ?_⟩
    rw [hlast hne, if_pos hsource.2]

theorem IsFileSystem.resolve?_below (fs : w.IsFileSystem) {way : List String}
    (h : w.resolve? p = some dir) (hfile : w.IsFile (dir ++ way)) :
    w.resolve? ⟨p.root, p.parts ++ way⟩ = some (dir ++ way) :=
  Workspace.resolve?_below h hfile fun hup =>
    fs.parent_not_mem hfile (List.mem_append_right dir hup)

theorem mem_places_candidates (fs : w.IsFileSystem) :
    place ∈ w.places (w.candidates p) ↔ w.StandsFor p place := by
  rw [mem_places]
  constructor
  · rintro ⟨q, hq, hplace⟩
    cases hp : w.resolve? p with
    | none => simp [candidates, hp] at hq
    | some dir =>
      rcases isDirectory_or_isFile hp with hdir | hfile
      · obtain ⟨way, rfl, hsource, hincluded⟩ := (mem_candidates_of_directory fs hp hdir).mp hq
        rw [fs.resolve?_below hp hsource.1] at hplace
        obtain rfl := Option.some.inj hplace
        exact .below hp hdir rfl hsource hincluded
      · rw [candidates_of_file fs hp hfile] at hq
        split at hq
        · next hsource =>
          obtain rfl := List.mem_singleton.mp hq
          obtain rfl := Option.some.inj (hp.symm.trans hplace)
          exact .itself hp ⟨hfile, hsource⟩
        · cases hq
  · intro h
    cases h with
    | itself hp hsource =>
      refine ⟨p, ?_, hp⟩
      rw [candidates_of_file fs hp hsource.1, if_pos hsource.2]
      exact List.mem_singleton.mpr rfl
    | below hp hdir hplaced hsource hincluded =>
      subst hplaced
      exact ⟨_, (mem_candidates_of_directory fs hp hdir).mpr ⟨_, rfl, hsource, hincluded⟩,
        fs.resolve?_below hp hsource.1⟩

theorem isSource_of_standsFor (h : w.StandsFor p place) : w.IsSource place := by
  cases h with
  | itself _ hsource => exact hsource
  | below _ _ _ hsource _ => exact hsource

theorem parts_of_mem_candidates (h : q ∈ w.candidates p) :
    q.root = p.root ∧ p.parts <+: q.parts := by
  rw [candidates] at h
  split at h
  · cases h
  · split at h
    · split at h
      · obtain rfl := List.mem_singleton.mp h
        exact ⟨rfl, List.prefix_refl _⟩
      · cases h
    · obtain ⟨way, -, hq⟩ := List.mem_filterMap.mp h
      dsimp only at hq
      split at hq
      · obtain rfl := Option.some.inj hq
        exact ⟨rfl, List.prefix_append _ _⟩
      · cases hq

theorem pairwise_candidates (w : Workspace) (p : Segments) :
    (w.candidates p).Pairwise fun q q' => q.parts.map Text.codes ≤ q'.parts.map Text.codes := by
  rw [candidates]
  split
  · exact .nil
  · next dir _ =>
    split
    · split
      · exact List.pairwise_singleton _ _
      · exact .nil
    · apply ((pairwise_waysBelow w dir).sublist List.filter_sublist).filterMap
      intro a b hab q hq q' hq'
      dsimp only at hq hq'
      split at hq
      · split at hq'
        · obtain rfl := Option.some.inj hq
          obtain rfl := Option.some.inj hq'
          exact append_le_append p.parts hab
        · cases hq'
      · cases hq

end Candidates

def fresh (w : Workspace) : List (List String) → List Segments → List Segments
  | _, [] => []
  | seen, q :: rest =>
    match w.resolve? q with
    | none => w.fresh seen rest
    | some place =>
      if seen.contains place then w.fresh seen rest else q :: w.fresh (seen ++ [place]) rest

section Fresh

variable {w : Workspace} {seen : List (List String)} {q : Segments} {rest : List Segments}
  {place : List String}

theorem fresh_of_unresolved (h : w.resolve? q = none) :
    w.fresh seen (q :: rest) = w.fresh seen rest := by
  rw [fresh, h]

theorem fresh_of_mem (h : w.resolve? q = some place) (hseen : place ∈ seen) :
    w.fresh seen (q :: rest) = w.fresh seen rest := by
  rw [fresh, h]
  exact if_pos (List.contains_iff_mem.mpr hseen)

theorem fresh_of_not_mem (h : w.resolve? q = some place) (hseen : place ∉ seen) :
    w.fresh seen (q :: rest) = q :: w.fresh (seen ++ [place]) rest := by
  rw [fresh, h]
  exact if_neg (mt List.contains_iff_mem.mp hseen)

theorem fresh_cons (seen : List (List String)) (q : Segments) (rest : List Segments) :
    w.fresh seen (q :: rest) = w.fresh seen rest ∨
      ∃ place, w.resolve? q = some place ∧ place ∉ seen ∧
        w.fresh seen (q :: rest) = q :: w.fresh (seen ++ [place]) rest := by
  cases hq : w.resolve? q with
  | none => exact .inl (fresh_of_unresolved hq)
  | some place =>
    by_cases hseen : place ∈ seen
    · exact .inl (fresh_of_mem hq hseen)
    · exact .inr ⟨place, rfl, hseen, fresh_of_not_mem hq hseen⟩

theorem foldl_addNew (got : List Segments × List (List String)) (qs : List Segments) :
    qs.foldl w.addNew got =
      (got.1 ++ w.fresh got.2 qs, got.2 ++ w.places (w.fresh got.2 qs)) := by
  induction qs generalizing got with
  | nil => simp [fresh, places]
  | cons q rest ih =>
    rw [List.foldl_cons, ih, addNew]
    cases hq : w.resolve? q with
    | none => rw [fresh_of_unresolved hq]
    | some place =>
      dsimp only
      by_cases hseen : place ∈ got.2
      · rw [if_pos hseen, fresh_of_mem hq hseen]
      · rw [if_neg hseen, fresh_of_not_mem hq hseen]
        simp [places, hq]

theorem fresh_sublist (seen : List (List String)) (qs : List Segments) :
    (w.fresh seen qs).Sublist qs := by
  induction qs generalizing seen with
  | nil => exact List.Sublist.refl _
  | cons q rest ih =>
    rcases fresh_cons seen q rest with h | ⟨place, -, -, h⟩
    · rw [h]
      exact (ih seen).cons q
    · rw [h]
      exact (ih _).cons_cons q

theorem mem_places_fresh {qs : List Segments} :
    place ∈ w.places (w.fresh seen qs) ↔ place ∈ w.places qs ∧ place ∉ seen := by
  induction qs generalizing seen with
  | nil => simp [fresh, places]
  | cons q rest ih =>
    cases hq : w.resolve? q with
    | none =>
      rw [fresh_of_unresolved hq, ih, places, places, List.filterMap_cons_none hq]
    | some found =>
      have hplaces : place ∈ w.places (q :: rest) ↔ place = found ∨ place ∈ w.places rest := by
        rw [places, List.filterMap_cons_some hq, List.mem_cons, places]
      rw [hplaces]
      by_cases hseen : found ∈ seen
      · rw [fresh_of_mem hq hseen, ih]
        refine and_congr_left fun hnot => ?_
        have hne : place ≠ found := fun h => hnot (h ▸ hseen)
        rw [or_iff_right hne]
      · rw [fresh_of_not_mem hq hseen, places, List.filterMap_cons_some hq, List.mem_cons]
        by_cases hplace : place = found
        · subst hplace
          simp [hseen]
        · rw [or_iff_right hplace, or_iff_right hplace]
          refine ih.trans (and_congr_right fun _ => ?_)
          simp [hplace]

theorem exists_place_of_mem_fresh {qs : List Segments} (h : q ∈ w.fresh seen qs) :
    ∃ place, w.resolve? q = some place ∧ place ∉ seen := by
  induction qs generalizing seen with
  | nil => cases h
  | cons x rest ih =>
    rcases fresh_cons seen x rest with hrest | ⟨place, hx, hseen, hfresh⟩
    · exact ih (hrest ▸ h)
    · rw [hfresh] at h
      rcases List.mem_cons.mp h with rfl | h
      · exact ⟨place, hx, hseen⟩
      · obtain ⟨found, hq, hnot⟩ := ih h
        exact ⟨found, hq, fun hmem => hnot (List.mem_append_left _ hmem)⟩

theorem pairwise_fresh (seen : List (List String)) (qs : List Segments) :
    (w.fresh seen qs).Pairwise fun p q => w.resolve? p ≠ w.resolve? q := by
  induction qs generalizing seen with
  | nil => exact .nil
  | cons q rest ih =>
    rcases fresh_cons seen q rest with hrest | ⟨place, hq, -, hfresh⟩
    · rw [hrest]
      exact ih seen
    · rw [hfresh]
      refine List.pairwise_cons.mpr ⟨?_, ih _⟩
      intro x hx heq
      obtain ⟨found, hfound, hnot⟩ := exists_place_of_mem_fresh hx
      obtain rfl := Option.some.inj (hq.symm.trans (heq.trans hfound))
      exact hnot (by simp)

theorem fresh_append (seen : List (List String)) (a b : List Segments) :
    w.fresh seen (a ++ b) =
      w.fresh seen a ++ w.fresh (seen ++ w.places (w.fresh seen a)) b := by
  induction a generalizing seen with
  | nil => simp [fresh, places]
  | cons q rest ih =>
    rw [List.cons_append]
    cases hq : w.resolve? q with
    | none => rw [fresh_of_unresolved hq, fresh_of_unresolved hq, ih]
    | some place =>
      by_cases hseen : place ∈ seen
      · rw [fresh_of_mem hq hseen, fresh_of_mem hq hseen, ih]
      · rw [fresh_of_not_mem hq hseen, fresh_of_not_mem hq hseen, ih]
        simp [places, hq]

theorem discover_eq (paths : List Segments) :
    w.discover paths = w.fresh [] (paths.flatMap w.candidates) := by
  rw [discover, foldl_addNew]
  rfl

end Fresh

section Discovered

variable {w : Workspace} {paths : List Segments} {place : List String}

theorem mem_places_flatMap (fs : w.IsFileSystem) :
    place ∈ w.places (paths.flatMap w.candidates) ↔ ∃ p ∈ paths, w.StandsFor p place := by
  simp only [← mem_places_candidates fs, mem_places, List.mem_flatMap]
  constructor
  · rintro ⟨q, ⟨p, hp, hq⟩, hplace⟩
    exact ⟨p, hp, q, hq, hplace⟩
  · rintro ⟨p, hp, q, hq, hplace⟩
    exact ⟨q, ⟨p, hp, hq⟩, hplace⟩

theorem mem_places_discover (fs : w.IsFileSystem) :
    place ∈ w.places (w.discover paths) ↔ ∃ p ∈ paths, w.StandsFor p place := by
  rw [discover_eq, mem_places_fresh, mem_places_flatMap fs]
  simp

theorem source_of_mem_discover (fs : w.IsFileSystem) {q : Segments} (h : q ∈ w.discover paths) :
    ∃ place, w.resolve? q = some place ∧ w.IsSource place ∧ q.language?.isSome = true := by
  have hq := h
  rw [discover_eq] at hq
  obtain ⟨place, hplace, -⟩ := exists_place_of_mem_fresh hq
  obtain ⟨p, -, hstands⟩ := (mem_places_discover fs).mp (mem_places.mpr ⟨q, h, hplace⟩)
  have hsource := isSource_of_standsFor hstands
  refine ⟨place, hplace, hsource, ?_⟩
  rw [language?_of_place (getLast?_of_resolve? hplace (fs.not_isDirectory hsource.1))]
  exact hsource.2

-- What an argument adds to what those before it stand for.
def added (w : Workspace) (before : List Segments) (p : Segments) : List Segments :=
  w.fresh (w.places (w.discover before)) (w.candidates p)

theorem exists_discover_append (before : List Segments) (p : Segments) (after : List Segments) :
    ∃ later,
      w.discover (before ++ p :: after) = w.discover before ++ w.added before p ++ later := by
  rw [discover_eq, List.flatMap_append, fresh_append, List.flatMap_cons, fresh_append,
    List.nil_append, ← List.append_assoc, ← discover_eq]
  exact ⟨_, rfl⟩

theorem mem_places_added (fs : w.IsFileSystem) {before : List Segments} {p : Segments} :
    place ∈ w.places (w.added before p) ↔
      w.StandsFor p place ∧ ∀ b ∈ before, ¬ w.StandsFor b place := by
  rw [added, mem_places_fresh, mem_places_candidates fs, mem_places_discover fs]
  simp

theorem pairwise_added (before : List Segments) (p : Segments) :
    (w.added before p).Pairwise fun q q' => q.parts.map Text.codes < q'.parts.map Text.codes := by
  have hsub : (w.added before p).Sublist (w.candidates p) := fresh_sublist _ _
  have hroot {q : Segments} (hq : q ∈ w.added before p) : q.root = p.root :=
    (parts_of_mem_candidates (hsub.subset hq)).1
  have hboth := ((pairwise_candidates w p).sublist hsub).and (pairwise_fresh _ (w.candidates p))
  refine hboth.imp_of_mem fun {q q'} hq hq' h => lt_of_le_of_ne h.1 fun heq => h.2 ?_
  have hparts : q.parts = q'.parts := Text.codes_injective.list_map heq
  rw [resolve?, resolve?, hparts, hroot hq, hroot hq']

end Discovered

theorem discover_finds_once (w : Workspace) (fs : w.IsFileSystem) (paths : List Segments) :
    (∀ q ∈ w.discover paths,
      ∃ place, w.resolve? q = some place ∧ w.IsSource place ∧ q.language?.isSome = true) ∧
    ((w.discover paths).Pairwise fun p q => w.resolve? p ≠ w.resolve? q) ∧
    (∀ place, place ∈ w.places (w.discover paths) ↔ ∃ p ∈ paths, w.StandsFor p place) ∧
    (∀ paths', (∀ p, p ∈ paths' ↔ p ∈ paths) → ∀ place,
      place ∈ w.places (w.discover paths') ↔ place ∈ w.places (w.discover paths)) ∧
    ∀ before p after, paths = before ++ p :: after →
      ∃ new later, w.discover paths = w.discover before ++ new ++ later ∧
        (∀ place, place ∈ w.places new ↔
          w.StandsFor p place ∧ ∀ b ∈ before, ¬ w.StandsFor b place) ∧
        (∀ q ∈ new, q.root = p.root ∧ p.parts <+: q.parts) ∧
        new.Pairwise fun q q' => q.parts.map Text.codes < q'.parts.map Text.codes := by
  refine ⟨fun q hq => source_of_mem_discover fs hq, ?_, fun place => mem_places_discover fs, ?_, ?_⟩
  · rw [discover_eq]
    exact pairwise_fresh [] _
  · intro paths' hsame place
    rw [mem_places_discover fs, mem_places_discover fs]
    simp only [hsame]
  · rintro before p after rfl
    obtain ⟨later, hlater⟩ := exists_discover_append (w := w) before p after
    refine ⟨w.added before p, later, hlater, fun place => mem_places_added fs, ?_, ?_⟩
    · exact fun q hq => parts_of_mem_candidates ((fresh_sublist _ _).subset hq)
    · exact pairwise_added before p

def vendored : Workspace where
  files := [(["home", "src", "b.js"], .bytes []), (["home", "src", "a.ts"], .bytes []),
    (["home", "node_modules", "lib", "index.js"], .bytes [])]
  current := ["home"]

theorem discover_finds_once_in_vendored :
    vendored.IsFileSystem ∧
    ["home", "node_modules", "lib", "index.js"] ∉
      vendored.places (vendored.discover [⟨"", []⟩, ⟨"/", ["home"]⟩]) ∧
    ["home", "node_modules", "lib", "index.js"] ∈
      vendored.places (vendored.discover
        [⟨"", []⟩, ⟨"", ["src", "..", "node_modules", "lib", "index.js"]⟩]) := by
  have fs : vendored.IsFileSystem := ⟨by decide, by decide⟩
  refine ⟨fs, ?_, ?_⟩
  · rw [(discover_finds_once vendored fs _).2.2.1]
    rintro ⟨p, hp, hstands⟩
    have hhome : vendored.resolve? p = some ["home"] := by
      simp only [List.mem_cons, List.not_mem_nil, or_false] at hp
      rcases hp with rfl | rfl <;> decide
    cases hstands with
    | itself h _ =>
      rw [hhome] at h
      cases h
    | below h _ hplaced _ hincluded =>
      obtain rfl := Option.some.inj (hhome.symm.trans h)
      obtain rfl : ["node_modules", "lib", "index.js"] = _ := by simpa using hplaced
      exact hincluded "node_modules" (by simp) (by decide)
  · rw [(discover_finds_once vendored fs _).2.2.1]
    refine ⟨_, List.mem_cons_of_mem _ List.mem_cons_self, .itself (by decide) ⟨?_, ?_⟩⟩
    · simp [IsFile, vendored]
    · decide +kernel

end DesignLint.Workspace
