import DesignLint.Proofs.Rule.ImportCircles
import DesignLint.Proofs.Rule.Replies
import DesignLint.Proofs.Rule.Rewriting

namespace DesignLint

theorem Path.directories_append_last {a b : List Char} (ha : '/' ∉ a) (hb : '/' ∉ b)
    (before : List Char) : directories (before ++ '/' :: a) = directories (before ++ '/' :: b) := by
  have hsplit (w : List Char) : before ++ '/' :: w = (before ++ ['/']) ++ w := by simp
  rw [hsplit a, hsplit b, directories_append ha, directories_append hb]

namespace Inversion

namespace Edit

def name : Edit → String
  | directory name => name
  | lastSegment name => name
  | suffix word => word

theorem slash_not_mem_of_isExtension {rest : List Char} (h : isExtension rest = true) :
    '/' ∉ rest := by
  intro hmem
  have hcut : '/' ∈ (if rest.getLast? = some '\n' then rest.dropLast else rest) := by
    split
    · next hlast =>
      obtain ⟨t, rfl⟩ := List.getLast?_eq_some_iff.mp hlast
      simpa using hmem
    · exact hmem
  rw [isExtension] at h
  split at h
  · next hnil =>
    rw [hnil] at hcut
    cases hcut
  · next word hword =>
    rw [hword] at hcut
    have hslash : '/' ∈ word := by simpa using hcut
    rw [Bool.and_eq_true, List.all_eq_true] at h
    exact absurd (h.2 '/' hslash) (by decide)
  · cases h

theorem slash_not_mem_of_closes {rest : List Char} (h : closes rest = true) : '/' ∉ rest := by
  simp only [closes, Bool.or_eq_true, decide_eq_true_eq] at h
  rcases h with rfl | rfl <;> decide

theorem mem_directories_new (before after : List Char) (name : String) :
    interfaces ∈ Path.directories (before ++ (directory name).new ++ after) := by
  have hslash : '/' ∉ interfaces := by decide
  rw [new_directory, Path.mem_directories_iff hslash]
  exact .inr ⟨before, after, by simp only [List.append_assoc, List.cons_append, List.nil_append]⟩

-- Behind the last slash of a path its directories do not change.
theorem mem_directories_apply {e : Edit} (h : '/' ∉ e.name.toList) {path : List Char}
    (hpath : interfaces ∈ Path.directories path) :
    interfaces ∈ Path.directories (e.apply path) := by
  rcases e.apply_cases path with ⟨-, heq⟩ | ⟨before, after, -, rfl, hadmits, heq⟩
  · rwa [heq]
  · rw [heq]
    cases e with
    | directory name => exact mem_directories_new before after name
    | lastSegment name =>
      have hafter : '/' ∉ after := slash_not_mem_of_closes hadmits
      have hname : '/' ∉ name.toList ++ after :=
        fun hm => (List.mem_append.mp hm).elim h hafter
      have hnew : '/' ∉ interfaces ++ after :=
        fun hm => (List.mem_append.mp hm).elim (by decide) hafter
      rw [old, List.append_assoc, List.cons_append,
        Path.directories_append_last hname hnew before] at hpath
      rwa [new_lastSegment, List.append_assoc, List.cons_append]
    | suffix word =>
      have hword : '/' ∉ (suffix word).old := h
      have hafter : '/' ∉ after := slash_not_mem_of_isExtension hadmits
      rw [Path.directories_append hafter, Path.directories_append hword] at hpath
      rw [new_suffix, List.append_nil, Path.directories_append hafter]
      exact hpath

theorem mem_directories_run {edits : List Edit} (h : ∀ e ∈ edits, '/' ∉ e.name.toList)
    {path : List Char} (hpath : interfaces ∈ Path.directories path) :
    interfaces ∈ Path.directories (run edits path) := by
  induction edits generalizing path with
  | nil => exact hpath
  | cons e rest ih =>
    exact ih (fun f hf => h f (List.mem_cons_of_mem e hf))
      (mem_directories_apply (h e List.mem_cons_self) hpath)

-- The first edit that finds its place leaves the directory behind that later ones keep.
theorem mem_directories_run_of_occurs {names : List String} (h : ∀ name ∈ names, '/' ∉ name.toList)
    {path : List Char} (hpath : ∃ name ∈ names, (directory name).Occurs path) :
    interfaces ∈ Path.directories (run (names.map directory) path) := by
  have hmap (names : List String) (hnames : ∀ name ∈ names, '/' ∉ name.toList) :
      ∀ e ∈ names.map directory, '/' ∉ e.name.toList := by
    simpa [name] using hnames
  induction names with
  | nil => simp at hpath
  | cons first rest ih =>
    have hrest : ∀ name ∈ rest, '/' ∉ name.toList := fun n hn => h n (List.mem_cons_of_mem _ hn)
    rw [List.map_cons, run_cons]
    rcases (directory first).apply_cases path with ⟨hnone, heq⟩ | ⟨before, after, -, -, -, heq⟩
    · rw [heq]
      refine ih hrest ?_
      obtain ⟨n, hn, hoccurs⟩ := hpath
      rcases List.mem_cons.mp hn with rfl | hn
      · exact absurd hoccurs hnone
      · exact ⟨n, hn, hoccurs⟩
    · rw [heq]
      exact mem_directories_run (hmap rest hrest) (mem_directories_new before after first)

theorem backslash_not_mem_new (e : Edit) : '\\' ∉ e.new := by
  cases e with
  | directory name =>
    rw [new_directory]
    decide
  | lastSegment name =>
    rw [new_lastSegment]
    decide
  | suffix word =>
    rw [new_suffix]
    exact List.not_mem_nil

theorem backslash_not_mem_run {edits : List Edit} {path : List Char} (h : '\\' ∉ path) :
    '\\' ∉ run edits path := by
  induction edits generalizing path with
  | nil => exact h
  | cons e rest ih =>
    rw [run_cons]
    apply ih
    rcases e.apply_cases path with ⟨-, heq⟩ | ⟨before, after, -, rfl, -, heq⟩
    · rwa [heq]
    · rw [heq]
      simp only [List.mem_append, not_or] at h ⊢
      exact ⟨⟨h.1.1, e.backslash_not_mem_new⟩, h.2⟩

end Edit

def abstractNames : List String := ["interfaces", "abstractions", "contracts"]

theorem isConcrete_defaults {path : String} (slashes : '\\' ∉ path.toList) :
    isConcrete defaultSettings path = .ok (Path.liesIn concreteDirectories path) := by
  have hpatterns : defaultSettings.concrete =
      concreteDirectories.map fun name => .text (PathClassifier.directoryGlob name) := rfl
  rw [isConcrete, PathClassifier.resolveAlias_of_aliases rfl, hpatterns]
  exact PathClassifier.matchesAny_directoryGlobs (by decide) slashes

theorem isAbstract_defaults {path : String} (slashes : '\\' ∉ path.toList) :
    isAbstract defaultSettings path = .ok (Path.liesIn abstractNames path) := by
  have hpatterns : defaultSettings.abstract =
      abstractNames.map fun name => .text (PathClassifier.directoryGlob name) := rfl
  rw [isAbstract, PathClassifier.resolveAlias_of_aliases rfl, hpatterns]
  exact PathClassifier.matchesAny_directoryGlobs (by decide) slashes

def IsAnchored (path : String) : Prop :=
  Text.startsWith path "./" = true ∨ Text.startsWith path "../" = true ∨
    Text.startsWith path "/" = true

theorem IsAnchored.exists_cons {path : String} (h : IsAnchored path) :
    ∃ c rest, path.toList = c :: rest ∧ (c = '.' ∨ c = '/') := by
  rcases h with h | h | h
  · obtain ⟨rest, hrest⟩ := List.isPrefixOf_iff_prefix.mp h
    exact ⟨'.', _, hrest.symm, .inl rfl⟩
  · obtain ⟨rest, hrest⟩ := List.isPrefixOf_iff_prefix.mp h
    exact ⟨'.', _, hrest.symm, .inl rfl⟩
  · obtain ⟨rest, hrest⟩ := List.isPrefixOf_iff_prefix.mp h
    exact ⟨'/', _, hrest.symm, .inr rfl⟩

theorem head_of_mem_concreteDirectories : ∀ name ∈ concreteDirectories, '/' ∉ name.toList ∧
    name.toList ≠ [] ∧ name.toList.head? ≠ some '.' ∧ name.toList.head? ≠ some '/' := by
  decide

-- The first segment of an anchored path is empty or made of dots, so a directory of implementations
-- has a slash in front of it.
theorem occurs_of_mem_directories {path name : String} (hstart : IsAnchored path)
    (hname : name ∈ concreteDirectories) (hmem : name.toList ∈ Path.directories path.toList) :
    (Edit.directory name).Occurs path.toList := by
  obtain ⟨hslash, hne, hdot, hroot⟩ := head_of_mem_concreteDirectories name hname
  obtain ⟨c, rest, hpath, hc⟩ := hstart.exists_cons
  rcases (Path.mem_directories_iff hslash _).mp hmem with ⟨after, hafter⟩ | ⟨before, after, hafter⟩
  · obtain ⟨d, ds, hd⟩ := List.exists_cons_of_ne_nil hne
    rw [hpath, hd] at hafter
    obtain ⟨rfl, -⟩ := List.cons.inj hafter
    rcases hc with rfl | rfl
    · exact absurd (by rw [hd]; rfl) hdot
    · exact absurd (by rw [hd]; rfl) hroot
  · refine ⟨List.cons_ne_nil _ _, before, after, ?_, rfl⟩
    rw [hafter, Edit.old]
    simp

theorem slash_not_mem_edits : ∀ e ∈ defaultSettings.edits, '/' ∉ e.name.toList := by
  decide

theorem isAbstract_run {path : String} (slashes : '\\' ∉ path.toList)
    (hstart : IsAnchored path) (hconcrete : isConcrete defaultSettings path = .ok true) :
    isAbstract defaultSettings (String.ofList (Edit.run defaultSettings.edits path.toList)) =
      .ok true := by
  have hlies : Path.liesIn concreteDirectories path = true :=
    Except.ok.inj ((isConcrete_defaults slashes).symm.trans hconcrete)
  obtain ⟨name, hname, hmem⟩ := List.any_eq_true.mp hlies
  have hoccurs := occurs_of_mem_directories hstart hname (of_decide_eq_true hmem)
  have hfirst : interfaces ∈
      Path.directories (Edit.run (concreteDirectories.map .directory) path.toList) :=
    Edit.mem_directories_run_of_occurs (fun n hn => (head_of_mem_concreteDirectories n hn).1)
      ⟨name, hname, hoccurs⟩
  have hall : interfaces ∈ Path.directories (Edit.run defaultSettings.edits path.toList) := by
    rw [Settings.edits, List.append_assoc, Edit.run_append]
    refine Edit.mem_directories_run (fun e he => slash_not_mem_edits e ?_) hfirst
    rw [Settings.edits, List.append_assoc]
    exact List.mem_append_right _ he
  have hslashes : '\\' ∉
      (String.ofList (Edit.run defaultSettings.edits path.toList)).toList := by
    rw [String.toList_ofList]
    exact Edit.backslash_not_mem_run slashes
  rw [isAbstract_defaults hslashes]
  refine congrArg Except.ok (List.any_eq_true.mpr ⟨"interfaces", List.mem_cons_self, ?_⟩)
  rw [String.toList_ofList]
  exact decide_eq_true hall

def folder (importer : String) : List Char :=
  match Path.directory importer.toList with
  | [] => ['.']
  | dir => dir

theorem suggestion_eq_ok {o : Settings} {probe : String → Bool} {path importer : String}
    {suggested : Option Value} (h : suggestion o probe path importer = .ok suggested)
    (hmapping : (Assoc.get? path o.mappings).filter Value.isPresent = none) :
    ∃ result, stripSuffixes o.suffixes
        (abstractDirectories (o.classifier.resolveAlias path).toList) = .ok result ∧
      suggested = if isThere probe (folder importer) result && !result.isEmpty then
        some (.text (String.ofList result)) else none := by
  rw [suggestion, hmapping] at h
  simp only at h
  generalize stripSuffixes o.suffixes
    (abstractDirectories (o.classifier.resolveAlias path).toList) = stripped at h ⊢
  cases stripped with
  | error misfit => cases h
  | ok result => exact ⟨result, rfl, (Except.ok.inj h).symm⟩

theorem mem_judged {o : Settings} {probe : String → Bool} {path importer : String}
    {neutral : Findings} {found : Option Value → Findings} {x : Diagnostic}
    (h : x ∈ (judged o probe path importer neutral found).diagnostics) :
    x ∈ neutral.diagnostics ∨ isAbstract o path = .ok false ∧
      ∃ suggested, suggestion o probe path importer = .ok suggested ∧
        x ∈ (found suggested).diagnostics := by
  obtain ⟨concrete, -, h⟩ := Findings.mem_diagnostics_given h
  cases concrete with
  | false => exact .inl h
  | true =>
    obtain ⟨abstract, habstract, h⟩ := Findings.mem_diagnostics_given h
    cases abstract with
    | true => cases h
    | false => exact .inr ⟨habstract, Findings.mem_diagnostics_given h⟩

variable {r : Reporter} {o : Settings} {probe : String → Bool} {c : Context} {s target : Site}
  {i : Import} {x : Diagnostic}

theorem not_reports_checkImport_of_isAbstract (h : isAbstract o i.module = .ok true) :
    ¬ (checkImport r o probe c s i).Reports directConcreteDependency := by
  rw [checkImport]
  split
  · exact Findings.not_reports_none
  · simp only
    split
    · exact (says_checkTypeImport i.module).not_reports (by decide)
    · rintro ⟨x, hx, hid⟩
      rcases mem_judged hx with hclass | ⟨hconcrete, -⟩
      · exact (says_classFindings r o s i).not_reports (by decide) ⟨x, hclass, hid⟩
      · rw [h] at hconcrete
        cases hconcrete

theorem suggested_isAbstract {path : String} (slashes : '\\' ∉ path.toList)
    (hstart : IsAnchored path) (hconcrete : isConcrete defaultSettings path = .ok true)
    (habstract : isAbstract defaultSettings path = .ok false) :
    ∃ suggested : String,
      stripSuffixes defaultSettings.suffixes (abstractDirectories path.toList) =
        .ok suggested.toList ∧
      suggested ≠ path ∧ isAbstract defaultSettings suggested = .ok true ∧
      (∀ probe importer, suggestion defaultSettings probe path importer =
        .ok (if isThere probe (folder importer) suggested.toList then some (.text suggested)
          else none)) ∧
      ∀ r probe c s i, i.module = suggested →
        ¬ (checkImport r defaultSettings probe c s i).Reports directConcreteDependency := by
  obtain ⟨result, hresult⟩ := settles_stripSuffixes fits_defaults.suffixes
    (abstractDirectories path.toList)
  have hrun : isAbstract defaultSettings (String.ofList result) = .ok true := by
    rw [eq_run_edits hresult]
    exact isAbstract_run slashes hstart hconcrete
  have hne : result ≠ [] := by
    rintro rfl
    exact absurd hrun (by decide)
  refine ⟨String.ofList result, ?_, ?_, hrun, ?_, ?_⟩
  · rw [String.toList_ofList, hresult]
  · intro heq
    rw [heq, habstract] at hrun
    cases hrun
  · intro probe importer
    obtain ⟨v, hv⟩ := settles_suggestion fits_defaults probe path importer
    obtain ⟨again, hagain, hsuggested⟩ := suggestion_eq_ok hv rfl
    rw [PathClassifier.resolveAlias_of_aliases rfl, hresult] at hagain
    obtain rfl := Except.ok.inj hagain
    rw [hv, hsuggested, String.toList_ofList, List.isEmpty_eq_false_iff.mpr hne, Bool.not_false,
      Bool.and_true]
  · intro r probe c s i hmodule
    rw [← hmodule] at hrun
    exact not_reports_checkImport_of_isAbstract hrun

theorem suggested_isAbstract_of_nestedDirectories :
    let path := "../impl/concrete/UserServiceImpl.ts"
    let suggested := "../interfaces/interfaces/User.ts"
    isConcrete defaultSettings path = .ok true ∧ isAbstract defaultSettings path = .ok false ∧
      stripSuffixes defaultSettings.suffixes (abstractDirectories path.toList) =
        .ok suggested.toList ∧
      isAbstract defaultSettings suggested = .ok true ∧
      ∀ r probe c s i, i.module = suggested →
        ¬ (checkImport r defaultSettings probe c s i).Reports directConcreteDependency := by
  intro path suggested
  have hconcrete : isConcrete defaultSettings path = .ok true := by decide +kernel
  have habstract : isAbstract defaultSettings path = .ok false := by decide +kernel
  have hresult : stripSuffixes defaultSettings.suffixes (abstractDirectories path.toList) =
      .ok suggested.toList := by decide +kernel
  have hslashes : '\\' ∉ path.toList := by decide
  obtain ⟨again, hagain, -, hsuggested, -, hfollowed⟩ :=
    suggested_isAbstract hslashes (.inr (.inl (by decide))) hconcrete habstract
  rw [hresult] at hagain
  obtain rfl : suggested = again := String.toList_inj.mp (Except.ok.inj hagain)
  exact ⟨hconcrete, habstract, hresult, hsuggested, hfollowed⟩

theorem suggested_of_mem_reply {m : Message} {path : String} {data : Fields}
    {suggested : Option Value} {rest : Findings} (hm : m.id ≠ suggestAbstraction.id)
    (hrest : ¬ rest.Reports suggestAbstraction) (hid : x.message.id = suggestAbstraction.id)
    (hx : x ∈ (r.report m target data ++
      match suggested with
      | some v => suggest r target path v
      | none => rest).diagnostics) :
    ∃ v, suggested = some v ∧
      x.data = [("importPath", .text path), ("suggestedPath", v)] := by
  rcases Findings.mem_diagnostics_append hx with hx | hx
  · rw [Reporter.eq_of_mem_report hx] at hid
    exact absurd hid hm
  · cases suggested with
    | some v => exact ⟨v, rfl, by rw [Reporter.eq_of_mem_report hx]⟩
    | none => exact absurd ⟨x, hx, hid⟩ hrest

theorem suggestion_of_mem_siteFindings (hx : x ∈ (siteFindings r o probe c s).diagnostics)
    (hid : x.message.id = suggestAbstraction.id) :
    ∃ i v, s.code.import? = some i ∧ suggestion o probe i.module c.path = .ok (some v) ∧
      x.data = [("importPath", .text i.module), ("suggestedPath", v)] := by
  rcases siteFindings_cases r o probe c s with h | ⟨i, target, hi, h | h⟩
  · rw [h] at hx
    cases hx
  · rw [h] at hx
    rcases mem_judged hx with hx | ⟨-, suggested, hsuggested, hx⟩
    · cases hx
    · obtain ⟨v, rfl, hdata⟩ :=
        suggested_of_mem_reply (by decide) Findings.not_reports_none hid hx
      exact ⟨i, v, hi, hsuggested, hdata⟩
  · rw [h] at hx
    have hclasses : ¬ (classFindings r o s i).Reports suggestAbstraction :=
      (says_classFindings r o s i).not_reports (by decide)
    rcases mem_judged hx with hx | ⟨-, suggested, hsuggested, hx⟩
    · exact absurd ⟨x, hx, hid⟩ hclasses
    · rcases Findings.mem_diagnostics_append hx with hx | hx
      · have hmissing : ¬ (Findings.when o.strict (r.report noAbstractionFound target
            [("importPath", .text i.module)])).Reports suggestAbstraction := by
          rw [Findings.reports_when, Reporter.reports_report]
          exact fun hreports => absurd hreports.2 (by decide)
        obtain ⟨v, rfl, hdata⟩ := suggested_of_mem_reply (by decide) hmissing hid hx
        exact ⟨i, v, hi, hsuggested, hdata⟩
      · exact absurd ⟨x, hx, hid⟩ hclasses

def Replaceable (o : Settings) (path : String) : Prop :=
  ∃ e ∈ o.edits, e.Occurs path.toList

theorem run_edits_eq_self_iff (o : Settings) (path : String) :
    String.ofList (Edit.run o.edits path.toList) = path ↔ ¬ Replaceable o path := by
  have hlightens : ∀ e ∈ o.edits, e.Lightens := fun e he => lightens_of_mem_edits he
  rw [← String.toList_inj, String.toList_ofList, Edit.run_eq_self_iff hlightens, Replaceable]
  simp

theorem suggested_differs_iff_replaceable (o : Settings) (severity : Severity)
    (probe : String → Bool) (path : String) (limit : Int) (root : SyntaxTree) :
    let c := Context.collect path limit root
    ∀ x ∈ (Detector.check ⟨.inversion o, severity⟩ probe c).diagnostics,
      x.message.id = suggestAbstraction.id →
      ∃ s ∈ c.sites [.importDecl], ∃ i v, s.code.import? = some i ∧
        x.data = [("importPath", .text i.module), ("suggestedPath", v)] ∧
        ((Assoc.get? i.module o.mappings).filter Value.isPresent = none →
          let resolved := o.classifier.resolveAlias i.module
          ∃ suggested, v = .text suggested ∧
            (∃ extension ∈ ["", ".js", ".ts", ".tsx"],
              probe (String.ofList (Path.normal (Path.join (folder c.path) suggested.toList)) ++
                extension) = true) ∧
            suggested = String.ofList (Edit.run o.edits resolved.toList) ∧
            (suggested ≠ resolved ↔ Replaceable o resolved) ∧
            (resolved = i.module → (suggested ≠ i.module ↔ Replaceable o i.module))) := by
  intro c x hx hid
  have hcheck : x ∈ (check (reporter severity c) o probe c).diagnostics := hx
  rcases check_cases (reporter severity c) o probe c with hnone | heach
  · rw [hnone] at hcheck
    cases hcheck
  · rw [heach] at hcheck
    obtain ⟨s, hs, hsite⟩ := Findings.mem_diagnostics_each hcheck
    obtain ⟨i, v, hi, hv, hdata⟩ := suggestion_of_mem_siteFindings hsite hid
    refine ⟨s, hs, i, v, hi, hdata, fun hmapping => ?_⟩
    obtain ⟨result, hresult, hsuggested⟩ := suggestion_eq_ok hv hmapping
    split at hsuggested
    · next hthere =>
      have hrun := congrArg String.ofList (eq_run_edits hresult)
      have hdiffers := not_congr (run_edits_eq_self_iff o (o.classifier.resolveAlias i.module))
      rw [not_not, ← hrun] at hdiffers
      refine ⟨String.ofList result, Option.some.inj hsuggested, ?_, hrun, hdiffers, ?_⟩
      · rw [String.toList_ofList]
        exact List.any_eq_true.mp (Bool.and_eq_true_iff.mp hthere).1
      · intro hsame
        rwa [hsame] at hdiffers
    · cases hsuggested

structure Suggests (path suggested : String) (x : Diagnostic) : Prop where
  message : x.message.id = suggestAbstraction.id
  path : Assoc.get? "importPath" x.data = some (.text path)
  suggested : Assoc.get? "suggestedPath" x.data = some (.text suggested)

theorem exists_suggests_of_any {found : Findings} {path suggested : String}
    (h : found.diagnostics.any (fun x => x.message.id = suggestAbstraction.id &&
      (Assoc.get? "importPath" x.data).bind Value.asText? = some path &&
      (Assoc.get? "suggestedPath" x.data).bind Value.asText? = some suggested) = true) :
    ∃ x ∈ found.diagnostics, Suggests path suggested x := by
  obtain ⟨x, hx, h⟩ := List.any_eq_true.mp h
  simp only [Bool.and_eq_true, decide_eq_true_eq, Option.bind_eq_some_iff,
    Value.asText?_eq_some, exists_eq_right] at h
  exact ⟨x, hx, h.1.1, h.1.2, h.2⟩

theorem suggested_differs_in_importFile :
    ∃ x ∈ (Detector.check ⟨.inversion defaultSettings, .warning⟩ (· == "src/interfaces/user.js")
        (Architecture.importFile "src/a.js" "./impl/user")).diagnostics,
      Suggests "./impl/user" "./interfaces/user" x ∧
        Replaceable defaultSettings "./impl/user" := by
  obtain ⟨x, hx, hsuggests⟩ : ∃ x ∈ (Detector.check ⟨.inversion defaultSettings, .warning⟩
      (· == "src/interfaces/user.js")
      (Architecture.importFile "src/a.js" "./impl/user")).diagnostics,
      Suggests "./impl/user" "./interfaces/user" x := exists_suggests_of_any (by decide +kernel)
  refine ⟨x, hx, hsuggests, ?_⟩
  obtain ⟨s, -, i, v, -, hdata, hreplaced⟩ :=
    suggested_differs_iff_replaceable _ _ _ _ _ _ x hx hsuggests.message
  obtain ⟨suggested, rfl, -, -, -, hiff⟩ := hreplaced rfl
  have hpath := hsuggests.path
  have hsuggested := hsuggests.suggested
  rw [hdata] at hpath hsuggested
  obtain rfl : suggested = "./interfaces/user" := Value.text.inj (Option.some.inj hsuggested)
  obtain hmodule : i.module = "./impl/user" := Value.text.inj (Option.some.inj hpath)
  rw [hmodule] at hiff
  exact (hiff (by decide +kernel)).mp (by decide)

def servicesOptions : Fields :=
  Assoc.put "concrete_patterns" (Options.texts ["**/services/**"]) schema.defaults

def servicesSettings : Settings :=
  { defaultSettings with concrete := [.text "**/services/**"] }

theorem suggested_is_imported :
    Settings.ofOptions servicesOptions = .ok servicesSettings ∧
    Assoc.get? "./services/user" servicesSettings.mappings = none ∧
    ∃ x ∈ (Detector.check ⟨.inversion servicesSettings, .warning⟩ (· == "src/services/user.js")
        (Architecture.importFile "src/a.js" "./services/user")).diagnostics,
      Suggests "./services/user" "./services/user" x :=
  ⟨rfl, rfl, exists_suggests_of_any (by decide +kernel)⟩

end Inversion

end DesignLint
