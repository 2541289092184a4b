import DesignLint.Proofs.Path.Directories
import DesignLint.Proofs.Rule.Completion
import Mathlib.Data.Fintype.EquivFin
import Mathlib.Data.Fintype.Lattice
import Mathlib.Tactic.MkIffOfInductiveProp

namespace DesignLint

namespace Architecture

theorem goesByDirectory_defaults :
    PathClassifier.GoesByDirectory defaultSettings.classifier.layers := by
  decide

def importFindings (r : Reporter) (o : Settings) (c : Context) (s : Site) : Findings :=
  .given (PathClassifier.matches c.path o.tests) fun isTest =>
    if isTest then .none
    else .given (PathClassifier.matches c.path o.crossCuts) fun shared =>
      if shared then .none
      else .given (o.classifier.classify c.path) fun layer =>
        .given (PathClassifier.matches c.path o.businessLogic) fun isBusiness =>
          checkSite r o ⟨layer, isBusiness⟩ s

theorem diagnostics_check (r : Reporter) {o : Settings} (fits : o.Fits) (c : Context) :
    (check r o c).diagnostics =
      (c.sites [.importDecl]).flatMap fun s => (importFindings r o c s).diagnostics := by
  obtain ⟨isTest, htest⟩ := PathClassifier.settles_matches c.path fits.tests
  obtain ⟨shared, hshared⟩ := PathClassifier.settles_matches c.path fits.crossCuts
  obtain ⟨layer, hlayer⟩ := PathClassifier.settles_classify fits.layers c.path
  obtain ⟨isBusiness, hbusiness⟩ := PathClassifier.settles_matches c.path fits.businessLogic
  simp only [check, importFindings, htest, hshared, hlayer, hbusiness, Findings.given]
  cases isTest with
  | true => simp [Findings.none]
  | false =>
    cases shared with
    | true => simp [Findings.none]
    | false => exact Findings.diagnostics_each fun s _ => stopped_checkSite r fits _ s

variable {r : Reporter} {o : Settings} {from_ : Standpoint} {t : Target}

theorem not_reports_between {m : Message} {check : Layer → Layer → Target → Findings}
    (h : ∀ inner outer, ¬ (check inner outer t).Reports m) :
    ¬ (between from_ t check).Reports m := by
  rw [between]
  split
  · exact h _ _
  · simp

-- Each of the seven checks of an import reports a message of its own and no other.
section Others

variable {m : Message}

theorem not_reports_checkLayers (h : dependencyRuleViolation.id ≠ m.id) :
    ¬ (between from_ t (checkLayers r)).Reports m :=
  not_reports_between fun inner outer => by simp [checkLayers, h]

theorem not_reports_checkFramework (h : frameworkInBusinessLogic.id ≠ m.id) :
    ¬ (checkFramework r o from_ t).Reports m := by
  rw [checkFramework]
  split <;> simp [h]

theorem not_reports_checkEntity (h : entityDependsOnUseCase.id ≠ m.id) :
    ¬ (between from_ t (checkEntity r)).Reports m :=
  not_reports_between fun inner outer => by simp [checkEntity, h]

theorem not_reports_checkSkip (h : skipLayerViolation.id ≠ m.id) :
    ¬ (between from_ t (checkSkip r o)).Reports m :=
  not_reports_between fun inner outer => by simp [checkSkip, h]

theorem not_reports_checkBoundary (h : missingInterface.id ≠ m.id) :
    ¬ (between from_ t (checkBoundary r o)).Reports m :=
  not_reports_between fun inner outer => by
    rw [checkBoundary]
    split <;> simp [h]

theorem not_reports_checkUserInterface (h : uiInBusinessLogic.id ≠ m.id) :
    ¬ (checkUserInterface r o from_ t).Reports m := by
  rw [checkUserInterface]
  split <;> simp [h]

theorem not_reports_checkDatabase (h : directDatabaseInUseCase.id ≠ m.id) :
    ¬ (checkDatabase r o from_ t).Reports m := by
  rw [checkDatabase]
  split <;> simp [h]

end Others

theorem reports_checkTarget :
    (checkTarget r o from_ t).Reports dependencyRuleViolation ↔
      ∃ inner outer, from_.layer = some inner ∧ t.layer = some outer ∧
        inner.level < outer.level := by
  rw [checkTarget, Findings.reports_append_iff_left (not_reports_checkDatabase (by decide)),
    Findings.reports_append_iff_left (not_reports_checkUserInterface (by decide)),
    Findings.reports_append_iff_left (not_reports_checkBoundary (by decide)),
    Findings.reports_append_iff_left (not_reports_checkSkip (by decide)),
    Findings.reports_append_iff_left (not_reports_checkEntity (by decide)),
    Findings.reports_append_iff_left (not_reports_checkFramework (by decide)), between]
  split
  · next inner outer hinner houter => simp [checkLayers, hinner, houter]
  · next hnone =>
    simp only [Findings.not_reports_none, false_iff]
    rintro ⟨inner, outer, hinner, houter, -⟩
    exact hnone inner outer hinner houter

theorem reports_checkImport {site : Site} {path : String} :
    (checkImport r o from_ site path).Reports dependencyRuleViolation ↔
      o.classifier.isExternal path = false ∧
      PathClassifier.matches (o.classifier.resolveImport path r.file) o.crossCuts = .ok false ∧
      ∃ inner, from_.layer = some inner ∧
        ∃ outer ∈ o.classifier.layer? (o.classifier.resolveImport path r.file),
          inner.level < outer.level := by
  simp only [checkImport]
  split
  · next hexternal => simp [hexternal, reports_checkTarget]
  · next hinternal =>
    rw [Bool.not_eq_true] at hinternal
    rw [Findings.reports_given_unless, Findings.reports_given, hinternal]
    simp only [reports_checkTarget, PathClassifier.mem_layer?_iff, true_and]
    refine and_congr_right fun _ => ?_
    constructor
    · rintro ⟨layer, hlayer, inner, outer, hinner, rfl, hlevels⟩
      exact ⟨inner, hinner, outer, hlayer, hlevels⟩
    · rintro ⟨inner, hinner, outer, houter, hlevels⟩
      exact ⟨some outer, houter, inner, outer, hinner, rfl, hlevels⟩

theorem reports_checkSite {s : Site} {i : Import} (h : s.code.import? = some i) :
    (checkSite r o from_ s).Reports dependencyRuleViolation ↔
      i.module ≠ "" ∧ PathClassifier.matches i.module o.crossCuts = .ok false ∧
      (checkImport r o from_ s i.module).Reports dependencyRuleViolation := by
  simp only [checkSite, h]
  split
  · next hempty => simp [hempty]
  · next hnamed =>
    rw [Findings.reports_given_unless]
    exact (and_iff_right hnamed).symm

@[mk_iff]
structure PointsOutward (o : Settings) (path module : String) : Prop where
  fileNotTest : PathClassifier.matches path o.tests = .ok false
  fileNotShared : PathClassifier.matches path o.crossCuts = .ok false
  named : module ≠ ""
  moduleNotShared : PathClassifier.matches module o.crossCuts = .ok false
  internal : o.classifier.isExternal module = false
  targetNotShared :
    PathClassifier.matches (o.classifier.resolveImport module path) o.crossCuts = .ok false
  levels : ∃ inner ∈ o.classifier.layer? path,
    ∃ outer ∈ o.classifier.layer? (o.classifier.resolveImport module path),
      inner.level < outer.level

instance (o : Settings) (path module : String) : Decidable (PointsOutward o path module) :=
  decidable_of_iff _ (pointsOutward_iff o path module).symm

theorem reports_importFindings_iff (fits : o.Fits) {c : Context} (hfile : r.file = c.path)
    {s : Site} {i : Import} (h : s.code.import? = some i) :
    (importFindings r o c s).Reports dependencyRuleViolation ↔
      PointsOutward o c.path i.module := by
  rw [importFindings, Findings.reports_given_unless, Findings.reports_given_unless,
    pointsOutward_iff]
  refine and_congr_right fun _ => and_congr_right fun _ => ?_
  simp only [Findings.reports_given, reports_checkSite h, reports_checkImport, hfile]
  constructor
  · rintro ⟨layer, hlayer, isBusiness, -, hnamed, hmodule, hinternal, htarget, inner, rfl, houter⟩
    have hinner := PathClassifier.mem_layer?_iff.mpr hlayer
    exact ⟨hnamed, hmodule, hinternal, htarget, inner, hinner, houter⟩
  · rintro ⟨hnamed, hmodule, hinternal, htarget, inner, hinner, houter⟩
    have hlayer := PathClassifier.mem_layer?_iff.mp hinner
    obtain ⟨isBusiness, hbusiness⟩ := PathClassifier.settles_matches c.path fits.businessLogic
    exact ⟨some inner, hlayer, isBusiness, hbusiness, hnamed, hmodule, hinternal, htarget, inner,
      rfl, houter⟩

-- The files stand in a circle, since addition on `Fin (n + 1)` wraps around.
structure ImportCircle (c : PathClassifier) (n : Nat) where
  file : Fin (n + 1) → Context
  site : Fin (n + 1) → Site
  code : Fin (n + 1) → Import
  listed : ∀ k, site k ∈ (file k).sites [.importDecl]
  imports : ∀ k, (site k).code.import? = some (code k)
  slashes : ∀ k, '\\' ∉ (file k).path.toList
  leads : ∀ k, Path.IsStem (c.resolveImport (code k).module (file k).path).toList
    (file (k + 1)).path.toList

theorem ImportCircle.exists_not_pointsOutward {n : Nat} (haliases : o.classifier.aliases = [])
    (hlayers : PathClassifier.GoesByDirectory o.classifier.layers)
    (circle : ImportCircle o.classifier n) :
    ∃ k, ¬ PointsOutward o (circle.file k).path (circle.code k).module := by
  by_contra hall
  have hlevels (k : Fin (n + 1)) := (not_not.mp (not_exists.mp hall k)).levels
  choose inner hinner outer houter hlt using hlevels
  -- an import without its extension finds the layer of the file that comes next
  have hnext (k : Fin (n + 1)) : outer k = inner (k + 1) := by
    have h := PathClassifier.mem_layer?_of_stem haliases hlayers (circle.leads k)
      (circle.slashes (k + 1)) (houter k)
    exact Option.mem_unique h (hinner (k + 1))
  -- so the file of the highest level would import one of a higher level
  obtain ⟨k, hmax⟩ := Finite.exists_max fun k => (inner k).level
  have hk := hlt k
  rw [hnext k] at hk
  exact absurd (hmax (k + 1)) (not_le.mpr hk)

abbrev reporter (severity : Severity) (c : Context) : Reporter :=
  ⟨Rule.architecture.id, severity, c.path⟩

theorem importCircle_not_all_outward (h : Settings.ofOptions schema.defaults = .ok o)
    (severity : Severity) (probe : String → Bool) {n : Nat}
    (circle : ImportCircle o.classifier n) :
    (∀ k, (Detector.check ⟨.architecture o, severity⟩ probe (circle.file k)).diagnostics =
      ((circle.file k).sites [.importDecl]).flatMap fun s =>
        (importFindings (reporter severity (circle.file k)) o (circle.file k) s).diagnostics) ∧
    (∀ k, (importFindings (reporter severity (circle.file k)) o (circle.file k)
        (circle.site k)).Reports dependencyRuleViolation ↔
      PointsOutward o (circle.file k).path (circle.code k).module) ∧
    ∃ k, ¬ (importFindings (reporter severity (circle.file k)) o (circle.file k)
        (circle.site k)).Reports dependencyRuleViolation := by
  obtain rfl := Except.ok.inj (ofOptions_defaults.symm.trans h)
  have hreports (k : Fin (n + 1)) := reports_importFindings_iff
    (r := reporter severity (circle.file k)) fits_defaults rfl (circle.imports k)
  refine ⟨fun k => diagnostics_check _ fits_defaults (circle.file k), hreports, ?_⟩
  obtain ⟨k, hk⟩ := circle.exists_not_pointsOutward rfl goesByDirectory_defaults
  exact ⟨k, fun hk' => hk ((hreports k).mp hk')⟩

def importSource (module : String) : Source :=
  Text.Utf8.encode ("import \"" ++ module ++ "\";")

def importTree (length : Nat) : ParseTree :=
  let named (type : String) (field : Option String) (start stop : Nat) (cs : List ParseTree) :
      ParseTree := .node ⟨type, start, stop, true, field⟩ cs
  let token (type : String) (start stop : Nat) : ParseTree :=
    .node ⟨type, start, stop, false, none⟩ []
  let close := 8 + length
  named "program" none 0 (close + 2) [
    named "import_statement" none 0 (close + 2) [
      token "import" 0 6,
      named "string" (some "source") 7 (close + 1) [
        token "\"" 7 8, named "string_fragment" none 8 close [], token "\"" close (close + 1)],
      token ";" (close + 1) (close + 2)]]

def importFile (path module : String) : Context :=
  Context.collect path 500 (.ofParse (importSource module) (importTree module.length))

theorem exists_importSite {path module : String}
    (h : ((importFile path module).sites [.importDecl]).any (fun s =>
      s.code.import?.any fun i => i.module = module) = true) :
    ∃ s ∈ (importFile path module).sites [.importDecl],
      ∃ i, s.code.import? = some i ∧ i.module = module := by
  obtain ⟨s, hs, hi⟩ := List.any_eq_true.mp h
  obtain ⟨i, hcode, hmodule⟩ := (Option.any_eq_true _ _).mp hi
  exact ⟨s, hs, i, hcode, of_decide_eq_true hmodule⟩

def mutualPath : Fin 2 → String
  | 0 => "src/domain/a.js"
  | 1 => "src/infrastructure/b.js"

def mutualModule : Fin 2 → String
  | 0 => "../infrastructure/b"
  | 1 => "../domain/a"

theorem path_mutualFile (k : Fin 2) :
    (importFile (mutualPath k) (mutualModule k)).path = mutualPath k := by
  revert k
  decide +kernel

theorem mutualFile_imports (k : Fin 2) :
    ∃ s ∈ (importFile (mutualPath k) (mutualModule k)).sites [.importDecl],
      ∃ i, s.code.import? = some i ∧ i.module = mutualModule k := by
  refine exists_importSite ?_
  revert k
  decide +kernel

theorem domain_pointsOutward :
    PointsOutward defaultSettings (mutualPath 0) (mutualModule 0) := by
  decide +kernel

theorem mutualImports_not_all_outward :
    Settings.ofOptions schema.defaults = .ok defaultSettings ∧
    ∃ circle : ImportCircle defaultSettings.classifier 1,
      (∀ k, (circle.file k).path = mutualPath k ∧ (circle.code k).module = mutualModule k) ∧
      (importFindings (reporter .warning (circle.file 0)) defaultSettings (circle.file 0)
        (circle.site 0)).Reports dependencyRuleViolation ∧
      ¬ (importFindings (reporter .warning (circle.file 1)) defaultSettings (circle.file 1)
        (circle.site 1)).Reports dependencyRuleViolation := by
  obtain ⟨circle, hcircle⟩ : ∃ circle : ImportCircle defaultSettings.classifier 1,
      ∀ k, (circle.file k).path = mutualPath k ∧ (circle.code k).module = mutualModule k := by
    choose site listed code imports hmodule using mutualFile_imports
    refine ⟨⟨_, site, code, listed, imports, fun k => ?_, fun k => ?_⟩,
      fun k => ⟨path_mutualFile k, hmodule k⟩⟩
    · rw [path_mutualFile]
      revert k
      decide +kernel
    · rw [hmodule, path_mutualFile, path_mutualFile]
      refine ⟨".js".toList, by decide, ?_⟩
      revert k
      decide +kernel
  obtain ⟨-, hreports, k, hk⟩ :=
    importCircle_not_all_outward ofOptions_defaults .warning (fun _ => false) circle
  have hfirst := (hreports 0).mpr (by
    rw [(hcircle 0).1, (hcircle 0).2]
    exact domain_pointsOutward)
  refine ⟨ofOptions_defaults, circle, hcircle, hfirst, ?_⟩
  match k, hk with
  | 0, hk => exact absurd hfirst hk
  | 1, hk => exact hk

end Architecture

end DesignLint
