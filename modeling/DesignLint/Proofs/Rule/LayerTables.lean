import DesignLint.Proofs.Rule.SkippedLayers

namespace DesignLint

theorem Except.toOption_eq_some {ε α : Type} {x : Except ε α} {a : α} :
    x.toOption = some a ↔ x = .ok a := by
  cases x with
  | error e => simp [Except.toOption]
  | ok b => simp [Except.toOption]

theorem Except.mapM_cases {ε α β : Type} (f : α → Except ε β) (items : List α) :
    (∃ a ∈ items, ∃ e, f a = .error e ∧ items.mapM f = .error e) ∨
      ((∀ a ∈ items, ∃ b, f a = .ok b) ∧
        items.mapM f = .ok (items.filterMap fun a => (f a).toOption)) := by
  induction items with
  | nil => exact .inr ⟨by simp, rfl⟩
  | cons a rest ih =>
    rw [List.mapM_cons]
    cases ha : f a with
    | error e => exact .inl ⟨a, by simp, e, ha, rfl⟩
    | ok b =>
      rcases ih with ⟨c, hc, e, he, hrest⟩ | ⟨hall, hrest⟩
      · exact .inl ⟨c, by simp [hc], e, he, by rw [hrest]; rfl⟩
      · refine .inr ⟨?_, ?_⟩
        · intro c hc
          rcases List.mem_cons.mp hc with rfl | hc
          · exact ⟨b, ha⟩
          · exact hall c hc
        · rw [hrest, List.filterMap_cons, ha]
          rfl

namespace Layer

def patternsOf? (entry : Value) : Option (List Value) :=
  match entry with
  | .table fields =>
    match Assoc.get? "patterns" fields with
    | some (.list patterns) => some patterns
    | _ => none
  | _ => none

def levelOf? (entry : Value) : Option Int :=
  match entry with
  | .table fields =>
    match Assoc.get? "level" fields with
    | some (.int level) => some level
    | _ => none
  | _ => none

def Lacks (entry : Value) : Prop :=
  (patternsOf? entry).isNone ∨ (levelOf? entry).isNone

instance (entry : Value) : Decidable (Lacks entry) :=
  inferInstanceAs (Decidable (_ ∨ _))

def levels (entries : Fields) : List Int :=
  entries.filterMap fun e => levelOf? e.2

def Faulty (entries : Fields) : Prop :=
  (∃ e ∈ entries, Lacks e.2) ∨ ¬ (levels entries).Nodup

instance (entries : Fields) : Decidable (Faulty entries) :=
  inferInstanceAs (Decidable (_ ∨ _))

theorem ofEntry_cases (name : String) (entry : Value) :
    (Lacks entry ∧ ofEntry name entry = .error (.badLayer name)) ∨
      ∃ l, ofEntry name entry = .ok l ∧ patternsOf? entry = some l.patterns ∧
        levelOf? entry = some l.level := by
  rw [ofEntry.eq_def]
  split
  · next fields =>
    split
    · next patterns level hpatterns hlevel =>
      exact .inr ⟨_, rfl, by simp [patternsOf?, hpatterns], by simp [levelOf?, hlevel]⟩
    · next hother =>
      refine .inl ⟨?_, rfl⟩
      rw [Lacks, patternsOf?, levelOf?]
      split
      · next patterns hpatterns =>
        split
        · next level hlevel => exact absurd hlevel (hother patterns level hpatterns)
        · exact .inr rfl
      · exact .inl rfl
  · next hother =>
    refine .inl ⟨.inl ?_, rfl⟩
    rw [patternsOf?]
    · rfl
    · exact hother

theorem fields_of_ofEntry {name : String} {entry : Value} {l : Layer}
    (h : ofEntry name entry = .ok l) :
    patternsOf? entry = some l.patterns ∧ levelOf? entry = some l.level := by
  rcases ofEntry_cases name entry with ⟨-, hbad⟩ | ⟨l', hl', hpatterns, hlevel⟩
  · cases h.symm.trans hbad
  · obtain rfl : l = l' := Except.ok.inj (h.symm.trans hl')
    exact ⟨hpatterns, hlevel⟩

theorem ofEntry_of_not_lacks (name : String) {entry : Value} (h : ¬ Lacks entry) :
    ∃ l, ofEntry name entry = .ok l := by
  rcases ofEntry_cases name entry with ⟨hlacks, -⟩ | ⟨l, hl, -⟩
  · exact absurd hlacks h
  · exact ⟨l, hl⟩

def described (entries : Fields) : List Layer :=
  entries.filterMap fun e => (ofEntry e.1 e.2).toOption

theorem mem_described {entries : Fields} {l : Layer} :
    l ∈ described entries ↔ ∃ e ∈ entries, ofEntry e.1 e.2 = .ok l := by
  rw [described, List.mem_filterMap]
  simp only [Except.toOption_eq_some]

theorem map_level_described {entries : Fields} (h : ∀ e ∈ entries, ¬ Lacks e.2) :
    (described entries).map (·.level) = levels entries := by
  rw [described, List.map_filterMap, levels]
  refine List.filterMap_congr fun e he => ?_
  obtain ⟨l, hl⟩ := ofEntry_of_not_lacks e.1 (h e he)
  rw [hl, (fields_of_ofEntry hl).2]
  rfl

def outwards (layers : List Layer) : List Layer :=
  layers.mergeSort fun a b => decide (a.level ≤ b.level)

theorem outwards_perm (layers : List Layer) : (outwards layers).Perm layers :=
  List.mergeSort_perm layers _

theorem pairwise_outwards {layers : List Layer} (h : (layers.map (·.level)).Nodup) :
    (outwards layers).Pairwise fun a b => a.level < b.level := by
  have hle : (outwards layers).Pairwise fun a b => decide (a.level ≤ b.level) = true := by
    refine List.pairwise_mergeSort ?_ ?_ layers
    · intro a b c hab hbc
      simp only [decide_eq_true_eq] at *
      omega
    · intro a b
      simp only [Bool.or_eq_true, decide_eq_true_eq]
      omega
  have hne : (outwards layers).Pairwise fun a b => a.level ≠ b.level :=
    List.pairwise_map.mp (((outwards_perm layers).map _).nodup_iff.mpr h)
  refine (hle.and hne).imp fun hab => ?_
  exact Int.lt_iff_le_and_ne.mpr ⟨of_decide_eq_true hab.1, hab.2⟩

theorem outwards_eq_of_perm {layers layers' : List Layer} (h : (layers.map (·.level)).Nodup)
    (hperm : layers'.Perm layers) : outwards layers' = outwards layers := by
  have h' : (layers'.map (·.level)).Nodup := (hperm.map _).nodup_iff.mpr h
  refine List.Perm.eq_of_pairwise ?_ (pairwise_outwards h') (pairwise_outwards h) ?_
  · intro a b _ _ hab hba
    omega
  · exact (outwards_perm layers').trans (hperm.trans (outwards_perm layers).symm)

theorem ofTable_cases (entries : Fields) :
    (∃ e ∈ entries, Lacks e.2 ∧ ofTable entries = .error (.badLayer e.1)) ∨
      ((∀ e ∈ entries, ¬ Lacks e.2) ∧ ofTable entries = .ok (outwards (described entries))) := by
  rw [ofTable]
  rcases Except.mapM_cases (fun e => ofEntry e.1 e.2) entries with
    ⟨e, he, error, herror, hall⟩ | ⟨hok, hall⟩
  · rw [hall]
    rcases ofEntry_cases e.1 e.2 with ⟨hlacks, hbad⟩ | ⟨l, hl, -⟩
    · obtain rfl : error = .badLayer e.1 := Except.error.inj (herror.symm.trans hbad)
      exact .inl ⟨e, he, hlacks, rfl⟩
    · cases herror.symm.trans hl
  · rw [hall]
    refine .inr ⟨?_, rfl⟩
    intro e he hlacks
    obtain ⟨l, hl⟩ := hok e he
    obtain ⟨hpatterns, hlevel⟩ := fields_of_ofEntry hl
    simp [Lacks, hpatterns, hlevel] at hlacks

theorem faulty_iff_of_perm {entries entries' : Fields} (h : entries'.Perm entries) :
    Faulty entries' ↔ Faulty entries := by
  have hlevels : (levels entries').Perm (levels entries) := h.filterMap _
  rw [Faulty, Faulty, hlevels.nodup_iff]
  simp only [h.mem_iff]

def Covers (l : Layer) (path : String) : Prop :=
  PathClassifier.matches path l.patterns = .ok true

def HoldTexts (entries : Fields) : Prop :=
  ∀ e ∈ entries, ∀ patterns ∈ patternsOf? e.2, AreTexts patterns

instance (entries : Fields) : Decidable (HoldTexts entries) :=
  inferInstanceAs (Decidable (∀ e ∈ entries, ∀ patterns ∈ patternsOf? e.2, AreTexts patterns))

theorem HoldTexts.areTexts {entries : Fields} (h : HoldTexts entries) {l : Layer}
    (hl : l ∈ described entries) : AreTexts l.patterns := by
  obtain ⟨e, he, hok⟩ := mem_described.mp hl
  exact h e he l.patterns (fields_of_ofEntry hok).1

end Layer

theorem Trial.find?_cases {α : Type} {test : α → Trial Bool} {items : List α}
    (h : ∀ a ∈ items, (test a).Settles) :
    (find? test items = .ok none ∧ ∀ a ∈ items, test a = .ok false) ∨
      ∃ before a after, items = before ++ a :: after ∧ find? test items = .ok (some a) ∧
        test a = .ok true ∧ ∀ b ∈ before, test b = .ok false := by
  induction items with
  | nil => exact .inl ⟨rfl, by simp⟩
  | cons a rest ih =>
    obtain ⟨passed, ha⟩ := h a List.mem_cons_self
    cases passed with
    | true => exact .inr ⟨[], a, rest, rfl, by rw [find?, ha], ha, by simp⟩
    | false =>
      have hfind : find? test (a :: rest) = find? test rest := by rw [find?, ha]
      rcases ih fun b hb => h b (List.mem_cons_of_mem a hb) with
        ⟨hnone, hall⟩ | ⟨before, b, after, rfl, hsome, hb, hbefore⟩
      · exact .inl ⟨hfind.trans hnone, List.forall_mem_cons.mpr ⟨ha, hall⟩⟩
      · exact .inr ⟨a :: before, b, after, rfl, hfind.trans hsome, hb,
          List.forall_mem_cons.mpr ⟨ha, hbefore⟩⟩

namespace PathClassifier

variable {c : PathClassifier}

def IsInnermost (c : PathClassifier) (path : String) : Option Layer → Prop
  | none => ∀ l ∈ c.layers, ¬ l.Covers path
  | some l => l ∈ c.layers ∧ l.Covers path ∧ ∀ m ∈ c.layers, m.Covers path → l.level ≤ m.level

def IsNearestOutside (c : PathClassifier) (l : Layer) : Option Layer → Prop
  | none => ∀ m ∈ c.layers, m.level ≤ l.level
  | some n => c.IsNext l n

theorem isNearestOutside_nextLayer (c : PathClassifier) (l : Layer) :
    c.IsNearestOutside l (c.nextLayer l) := by
  by_cases h : ∃ m ∈ c.layers, l.level < m.level
  · obtain ⟨m, hm, hlm⟩ := h
    obtain ⟨n, hn, hnext⟩ := exists_isNext hm hlm
    rw [hn]
    exact hnext
  · have hle : ∀ m ∈ c.layers, m.level ≤ l.level := by
      intro m hm
      exact Int.not_lt.mp fun hlm => h ⟨m, hm, hlm⟩
    have hfilter : c.layers.filter (fun o => decide (l.level < o.level)) = [] := by
      simpa [List.filter_eq_nil_iff] using hle
    rw [nextLayer, hfilter]
    exact hle

theorem exists_isInnermost (haliases : c.aliases = [])
    (houtwards : c.layers.Pairwise fun a b => a.level < b.level)
    (htexts : ∀ l ∈ c.layers, AreTexts l.patterns) {path : String} (hpath : path ≠ "") :
    ∃ found, c.classify path = .ok found ∧ c.IsInnermost path found := by
  rw [classify, if_neg hpath, resolveAlias_of_aliases haliases]
  rcases Trial.find?_cases fun l hl => settles_matches path (htexts l hl) with
    ⟨hnone, hall⟩ | ⟨before, l, after, hlayers, hsome, hl, hbefore⟩
  · refine ⟨none, hnone, ?_⟩
    intro l hl hcovers
    cases (hall l hl).symm.trans hcovers
  · refine ⟨some l, hsome, by simp [hlayers], hl, ?_⟩
    rw [hlayers, List.pairwise_append, List.pairwise_cons] at houtwards
    obtain ⟨-, ⟨hafter, -⟩, -⟩ := houtwards
    intro m hm hcovers
    rw [hlayers, List.mem_append, List.mem_cons] at hm
    rcases hm with hm | rfl | hm
    · cases (hbefore m hm).symm.trans hcovers
    · exact Int.le_refl m.level
    · exact Int.le_of_lt (hafter m hm)

structure Arranges (c : PathClassifier) (entries : Fields) : Prop where
  listed : ∀ l, l ∈ c.layers ↔ ∃ e ∈ entries, Layer.ofEntry e.1 e.2 = .ok l
  outwards : c.layers.Pairwise fun a b => a.level < b.level
  classified : Layer.HoldTexts entries → ∀ path, path ≠ "" →
    ∃ found, c.classify path = .ok found ∧ c.IsInnermost path found
  unclassified : c.classify "" = .ok none
  followed : ∀ l, c.IsNearestOutside l (c.nextLayer l)

theorem arranges_outwards {entries : Fields}
    (h : ((Layer.described entries).map (·.level)).Nodup) :
    Arranges ⟨Layer.outwards (Layer.described entries), []⟩ entries where
  listed l := by
    rw [(Layer.outwards_perm _).mem_iff]
    exact Layer.mem_described
  outwards := Layer.pairwise_outwards h
  classified htexts path hpath := by
    refine exists_isInnermost rfl (Layer.pairwise_outwards h) ?_ hpath
    intro l hl
    exact htexts.areTexts ((Layer.outwards_perm _).mem_iff.mp hl)
  unclassified := rfl
  followed := isNearestOutside_nextLayer _

end PathClassifier

namespace Architecture

def classifierOf (options entries : Fields) : Except ConfigError PathClassifier :=
  (Settings.ofOptions (Assoc.put "layers" (.table entries) options)).map (·.classifier)

variable {options : Fields}

theorem classifierOf_eq (haliases : Options.entries options "path_aliases" = [])
    (entries : Fields) :
    classifierOf options entries = (do PathClassifier.build (← Layer.ofTable entries) []) := by
  have hlayers : Options.entries (Assoc.put "layers" (.table entries) options) "layers" =
      entries := by
    rw [Options.entries, Assoc.get?_put, if_pos rfl]
  have hkept : Options.entries (Assoc.put "layers" (.table entries) options) "path_aliases" =
      [] := by
    rw [Options.entries, Assoc.get?_put, if_neg (by decide)]
    exact haliases
  rw [classifierOf, Settings.ofOptions, hlayers, hkept]
  cases Layer.ofTable entries with
  | error e => rfl
  | ok layers =>
    simp only [bind, Except.bind]
    cases PathClassifier.build layers [] with
    | error e => rfl
    | ok c => rfl

theorem classifierOf_cases (haliases : Options.entries options "path_aliases" = [])
    (entries : Fields) :
    (Layer.Faulty entries ∧ ∃ e, classifierOf options entries = .error e ∧ e.category = .invalid) ∨
      (¬ Layer.Faulty entries ∧ ((Layer.described entries).map (·.level)).Nodup ∧
        classifierOf options entries = .ok ⟨Layer.outwards (Layer.described entries), []⟩) := by
  rw [classifierOf_eq haliases]
  rcases Layer.ofTable_cases entries with ⟨e, he, hlacks, hbad⟩ | ⟨hall, hok⟩
  · refine .inl ⟨.inl ⟨e, he, hlacks⟩, .badLayer e.1, ?_, rfl⟩
    rw [hbad]
    rfl
  · have hsorted := ((Layer.outwards_perm (Layer.described entries)).map (·.level)).nodup_iff
    rw [hok]
    by_cases hnodup : ((Layer.described entries).map (·.level)).Nodup
    · refine .inr ⟨?_, hnodup, if_pos (hsorted.mpr hnodup)⟩
      rintro (⟨e, he, hlacks⟩ | hrepeated)
      · exact hall e he hlacks
      · rw [← Layer.map_level_described hall] at hrepeated
        exact hrepeated hnodup
    · refine .inl ⟨.inr ?_, .repeatedLevel, if_neg fun h => hnodup (hsorted.mp h), rfl⟩
      rwa [← Layer.map_level_described hall]

theorem classifierOf_of_outwards (haliases : Options.entries options "path_aliases" = [])
    {entries : Fields} (hsound : ¬ Layer.Faulty entries)
    (houtwards : (Layer.described entries).Pairwise fun a b => a.level < b.level) :
    classifierOf options entries = .ok ⟨Layer.described entries, []⟩ := by
  rcases classifierOf_cases haliases entries with ⟨hfaulty, -⟩ | ⟨-, -, hok⟩
  · exact absurd hfaulty hsound
  · rw [hok, Layer.outwards, List.mergeSort_of_pairwise]
    exact houtwards.imp fun hab => decide_eq_true (Int.le_of_lt hab)

theorem toOption_classifierOf_of_perm (haliases : Options.entries options "path_aliases" = [])
    {entries entries' : Fields} (hperm : entries'.Perm entries) :
    (classifierOf options entries').toOption = (classifierOf options entries).toOption := by
  have hfaulty := Layer.faulty_iff_of_perm hperm
  rcases classifierOf_cases haliases entries with ⟨hf, e, he, -⟩ | ⟨hf, hnodup, hok⟩
  · rcases classifierOf_cases haliases entries' with ⟨-, e', he', -⟩ | ⟨hf', -⟩
    · rw [he, he']
      rfl
    · exact absurd (hfaulty.mpr hf) hf'
  · rcases classifierOf_cases haliases entries' with ⟨hf', -⟩ | ⟨-, -, hok'⟩
    · exact absurd (hfaulty.mp hf') hf
    · have hdescribed : (Layer.described entries').Perm (Layer.described entries) :=
        hperm.filterMap _
      rw [hok, hok', Layer.outwards_eq_of_perm hnodup hdescribed]

theorem classifier_of_table (haliases : Options.entries options "path_aliases" = [])
    (entries : Fields) :
    ((Layer.Faulty entries ∧
        ∃ e, classifierOf options entries = .error e ∧ e.category = .invalid) ∨
      (¬ Layer.Faulty entries ∧
        ∃ c, classifierOf options entries = .ok c ∧ c.Arranges entries)) ∧
    ∀ entries' : Fields, entries'.Perm entries →
      (classifierOf options entries').toOption = (classifierOf options entries).toOption := by
  refine ⟨?_, fun entries' hperm => toOption_classifierOf_of_perm haliases hperm⟩
  rcases classifierOf_cases haliases entries with hfaulty | ⟨hsound, hnodup, hok⟩
  · exact .inl hfaulty
  · exact .inr ⟨hsound, _, hok, PathClassifier.arranges_outwards hnodup⟩

def ring (level : Int) (patterns : List String) : Value :=
  .table [("patterns", Options.texts patterns), ("level", .int level)]

def rings : Fields :=
  [("shell", ring 9 ["**"]), ("core", ring (-1) ["**/core/**"]), ("ports", ring 4 ["**/ports/**"])]

def ringsOutwards : Fields :=
  [("core", ring (-1) ["**/core/**"]), ("ports", ring 4 ["**/ports/**"]), ("shell", ring 9 ["**"])]

def ringClassifier : PathClassifier :=
  { layers := Layer.described ringsOutwards }

theorem classifier_of_rings :
    Options.entries schema.defaults "path_aliases" = [] ∧ ¬ Layer.Faulty rings ∧
      Layer.HoldTexts rings ∧ classifierOf schema.defaults rings = .ok ringClassifier ∧
      ringClassifier.Arranges rings ∧
      (ringClassifier.classify "src/ports/core/a.js").toOption.join.map (·.name) = some "core" ∧
      (ringClassifier.classify "src/main.js").toOption.join.map (·.name) = some "shell" ∧
      (ringClassifier.nextLayer ⟨"core", -1, []⟩).map (·.name) = some "ports" := by
  have haliases : Options.entries schema.defaults "path_aliases" = [] := rfl
  have hsound : ¬ Layer.Faulty rings := by decide
  obtain ⟨hbuilt, hperm⟩ := classifier_of_table haliases rings
  rcases hbuilt with ⟨hfaulty, -⟩ | ⟨-, c, hc, harranges⟩
  · exact absurd hfaulty hsound
  · have hrotated : ringsOutwards.Perm rings :=
      @List.perm_append_comm _ (ringsOutwards.take 2) (ringsOutwards.drop 2)
    have hsame := hperm ringsOutwards hrotated
    rw [classifierOf_of_outwards haliases (by decide) (by decide), hc] at hsame
    obtain rfl : ringClassifier = c := Option.some.inj hsame
    exact ⟨haliases, hsound, by decide, hc, harranges, by decide +kernel, by decide +kernel,
      by decide +kernel⟩

def catchAll : Fields := [("all", ring 1 ["*"])]

theorem empty_path_in_no_layer :
    ¬ Layer.Faulty catchAll ∧ Layer.HoldTexts catchAll ∧
      ∃ c, classifierOf schema.defaults catchAll = .ok c ∧ c.classify "" = .ok none ∧
        ¬ ∃ found, c.classify "" = .ok found ∧ c.IsInnermost "" found := by
  have hsound : ¬ Layer.Faulty catchAll := by decide
  refine ⟨hsound, by decide, _, classifierOf_of_outwards rfl hsound (by decide), rfl, ?_⟩
  rintro ⟨found, hfound, hinnermost⟩
  obtain rfl : none = found := Except.ok.inj hfound
  have hcovers : Layer.Covers ⟨"all", 1, [.text "*"]⟩ "" := by
    rw [Layer.Covers]
    decide +kernel
  exact hinnermost _ List.mem_cons_self hcovers

end Architecture

end DesignLint
