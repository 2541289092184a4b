import DesignLint.Proofs.Path.Respelling
import DesignLint.Proofs.Rule.ImportCircles

namespace DesignLint

namespace Findings

variable {α : Type} {m : Message}

theorem reports_append {a b : Findings} (h : a.stopped = .none) :
    (a ++ b).Reports m ↔ a.Reports m ∨ b.Reports m := by
  simp only [Reports, diagnostics_append h, List.mem_append, or_and_right, exists_or]

theorem diagnostics_each_stop (misfit : Misfit) (items : List α) :
    (each (fun _ => stop misfit) items).diagnostics = [] := by
  cases items <;> rfl

theorem diagnostics_each_none (items : List α) : (each (fun _ => none) items).diagnostics = [] := by
  induction items with
  | nil => rfl
  | cons a rest ih => rw [each, none_append, ih]

end Findings

namespace Architecture

inductive LayerFault where
  | outward
  | entity
  | skip
  | boundary
deriving DecidableEq, Repr

namespace LayerFault

def message : LayerFault → Message
  | outward => dependencyRuleViolation
  | entity => entityDependsOnUseCase
  | skip => skipLayerViolation
  | boundary => missingInterface

def Between (o : Settings) (target : String) (inner outer : Layer) : LayerFault → Prop
  | outward => inner.level < outer.level
  | entity => inner.name = "entities" ∧ isUseCase outer = true
  | skip => 1 < outer.level - inner.level
  | boundary => 1 < (inner.level - outer.level).natAbs ∧
      PathClassifier.matches target o.interfaces = .ok false

structure Arises (o : Settings) (file target : String) (fault : LayerFault) : Prop where
  fileNotTest : PathClassifier.matches file o.tests = .ok false
  fileNotShared : PathClassifier.matches file o.crossCuts = .ok false
  fileJudged : (PathClassifier.matches file o.businessLogic).Settles
  targetNotShared : PathClassifier.matches target o.crossCuts = .ok false
  layers : ∃ inner ∈ o.classifier.layer? file, ∃ outer ∈ o.classifier.layer? target,
    fault.Between o target inner outer

def check (r : Reporter) (o : Settings) : LayerFault → Layer → Layer → Target → Findings
  | outward => checkLayers r
  | entity => checkEntity r
  | skip => checkSkip r o
  | boundary => checkBoundary r o

theorem message_id_eq_iff {f g : LayerFault} : f.message.id = g.message.id ↔ f = g := by
  cases f <;> cases g <;> decide

theorem reports_check {r : Reporter} {o : Settings} {inner outer : Layer} {t : Target}
    {f g : LayerFault} :
    (f.check r o inner outer t).Reports g.message ↔ f = g ∧ f.Between o t.resolved inner outer := by
  rw [← message_id_eq_iff, and_comm]
  cases f with
  | outward => simp [check, checkLayers, Between, message]
  | entity => simp [check, checkEntity, Between, message]
  | skip => simp [check, checkSkip, Between, message]
  | boundary =>
    rw [check, checkBoundary]
    split
    · next hapart => simp [Between, message, hapart, and_comm]
    · next hnear => simp [Between, hnear]

end LayerFault

variable {r : Reporter} {o : Settings} {from_ : Standpoint} {t : Target}

theorem reports_between {m : Message} {check : Layer → Layer → Target → Findings} :
    (between from_ t check).Reports m ↔
      ∃ inner outer, from_.layer = some inner ∧ t.layer = some outer ∧
        (check inner outer t).Reports m := by
  rw [between]
  split
  · next inner outer hinner houter => simp [hinner, houter]
  · next hnone =>
    refine iff_of_false Findings.not_reports_none ?_
    rintro ⟨inner, outer, hinner, houter, -⟩
    exact hnone inner outer hinner houter

theorem reports_checkTarget_internal (hinternal : t.external = false) {m : Message}
    (hm : uiInBusinessLogic.id ≠ m.id) :
    (checkTarget r o from_ t).Reports m ↔
      ∃ f : LayerFault, (between from_ t (f.check r o)).Reports m := by
  have hframework : checkFramework r o from_ t = .none := by simp [checkFramework, hinternal]
  have hdatabase : checkDatabase r o from_ t = .none := by simp [checkDatabase, hinternal]
  have hlayers : (between from_ t (checkLayers r)).stopped = none :=
    stopped_between fun inner outer => by simp [checkLayers]
  have hentity : (between from_ t (checkEntity r)).stopped = none :=
    stopped_between fun inner outer => by simp [checkEntity]
  have hskip : (between from_ t (checkSkip r o)).stopped = none :=
    stopped_between fun inner outer => by simp [checkSkip]
  rw [checkTarget, hframework, hdatabase, Findings.append_none, Findings.append_none,
    Findings.reports_append_iff_left (not_reports_checkUserInterface hm),
    Findings.reports_append (by simp [hlayers, hentity, hskip]),
    Findings.reports_append (by simp [hlayers, hentity]), Findings.reports_append hlayers]
  constructor
  · rintro (((h | h) | h) | h)
    · exact ⟨.outward, h⟩
    · exact ⟨.entity, h⟩
    · exact ⟨.skip, h⟩
    · exact ⟨.boundary, h⟩
  · rintro ⟨f, h⟩
    cases f with
    | outward => exact .inl (.inl (.inl h))
    | entity => exact .inl (.inl (.inr h))
    | skip => exact .inl (.inr h)
    | boundary => exact .inr h

theorem reports_checkTarget_fault (hinternal : t.external = false) (fault : LayerFault) :
    (checkTarget r o from_ t).Reports fault.message ↔
      ∃ inner outer, from_.layer = some inner ∧ t.layer = some outer ∧
        fault.Between o t.resolved inner outer := by
  have hui : uiInBusinessLogic.id ≠ fault.message.id := by cases fault <;> decide
  simp only [reports_checkTarget_internal hinternal hui, reports_between, LayerFault.reports_check]
  constructor
  · rintro ⟨f, inner, outer, hinner, houter, rfl, hbetween⟩
    exact ⟨inner, outer, hinner, houter, hbetween⟩
  · rintro ⟨inner, outer, hinner, houter, hbetween⟩
    exact ⟨fault, inner, outer, hinner, houter, rfl, hbetween⟩

theorem reports_checkImport_fault {site : Site} {path : String}
    (hinternal : o.classifier.isExternal path = false) (fault : LayerFault) :
    (checkImport r o from_ site path).Reports fault.message ↔
      PathClassifier.matches (o.classifier.resolveImport path r.file) o.crossCuts = .ok false ∧
      ∃ inner, from_.layer = some inner ∧
        ∃ outer ∈ o.classifier.layer? (o.classifier.resolveImport path r.file),
          fault.Between o (o.classifier.resolveImport path r.file) inner outer := by
  rw [checkImport, hinternal, if_neg Bool.false_ne_true, Findings.reports_given_unless]
  simp only [Findings.reports_given, reports_checkTarget_fault, PathClassifier.mem_layer?_iff]
  refine and_congr_right fun _ => ?_
  constructor
  · rintro ⟨layer, hlayer, inner, outer, hinner, rfl, hbetween⟩
    exact ⟨inner, hinner, outer, hlayer, hbetween⟩
  · rintro ⟨inner, hinner, outer, houter, hbetween⟩
    exact ⟨some outer, houter, inner, outer, hinner, rfl, hbetween⟩

theorem reports_checkSite_iff {s : Site} {i : Import} (h : s.code.import? = some i)
    (hnamed : i.module ≠ "") (m : Message) :
    (checkSite r o from_ s).Reports m ↔
      PathClassifier.matches i.module o.crossCuts = .ok false ∧
      (checkImport r o from_ s i.module).Reports m := by
  simp only [checkSite, h]
  rw [if_neg hnamed, Findings.reports_given_unless]

theorem reports_importFindings_fault {c : Context} (hfile : r.file = c.path) {s : Site}
    {i : Import} (h : s.code.import? = some i)
    (hrelative : PathClassifier.isRelative i.module = true) (fault : LayerFault) :
    (importFindings r o c s).Reports fault.message ↔
      PathClassifier.matches i.module o.crossCuts = .ok false ∧
      fault.Arises o c.path (o.classifier.resolveImport i.module c.path) := by
  have hnamed : i.module ≠ "" := by
    intro he
    rw [he] at hrelative
    cases hrelative
  have hinternal : o.classifier.isExternal i.module = false :=
    PathClassifier.isExternal_of_isRelative hrelative
  rw [importFindings, Findings.reports_given_unless, Findings.reports_given_unless]
  simp only [Findings.reports_given, reports_checkSite_iff h hnamed,
    reports_checkImport_fault hinternal, hfile]
  constructor
  · rintro ⟨htest, hshared, layer, hlayer, isBusiness, hbusiness, hmodule, htarget, inner, rfl,
      outer, houter, hbetween⟩
    have hinner := PathClassifier.mem_layer?_iff.mpr hlayer
    exact ⟨hmodule, htest, hshared, ⟨isBusiness, hbusiness⟩, htarget, inner, hinner, outer, houter,
      hbetween⟩
  · rintro ⟨hmodule, htest, hshared, ⟨isBusiness, hbusiness⟩, htarget, inner, hinner, outer, houter,
      hbetween⟩
    have hlayer := PathClassifier.mem_layer?_iff.mp hinner
    exact ⟨htest, hshared, some inner, hlayer, isBusiness, hbusiness, hmodule, htarget, inner, rfl,
      outer, houter, hbetween⟩

theorem diagnostics_check_each (r : Reporter) (o : Settings) (c : Context) :
    (check r o c).diagnostics =
      (Findings.each (importFindings r o c) (c.sites [.importDecl])).diagnostics := by
  have hfindings : importFindings r o c = fun s => importFindings r o c s := rfl
  rw [hfindings]
  simp only [check, importFindings]
  cases PathClassifier.matches c.path o.tests with
  | error misfit => exact (Findings.diagnostics_each_stop misfit _).symm
  | ok isTest =>
    cases isTest with
    | true => exact (Findings.diagnostics_each_none _).symm
    | false =>
      cases PathClassifier.matches c.path o.crossCuts with
      | error misfit => exact (Findings.diagnostics_each_stop misfit _).symm
      | ok shared =>
        cases shared with
        | true => exact (Findings.diagnostics_each_none _).symm
        | false =>
          cases o.classifier.classify c.path with
          | error misfit => exact (Findings.diagnostics_each_stop misfit _).symm
          | ok layer =>
            cases PathClassifier.matches c.path o.businessLogic with
            | error misfit => exact (Findings.diagnostics_each_stop misfit _).symm
            | ok isBusiness => rfl

theorem layerVerdicts_agree_iff (o : Settings) (severity : Severity) (probe : String → Bool)
    {c d : Context} (hfile : c.path = d.path) {s t : Site} {i j : Import}
    (hs : s.code.import? = some i) (ht : t.code.import? = some j)
    (hi : PathClassifier.isRelative i.module = true)
    (hj : PathClassifier.isRelative j.module = true)
    (htarget : o.classifier.resolveImport i.module c.path =
      o.classifier.resolveImport j.module d.path) :
    (Detector.check ⟨.architecture o, severity⟩ probe c).diagnostics =
      (Findings.each (importFindings (reporter severity c) o c)
        (c.sites [.importDecl])).diagnostics ∧
    (∀ fault : LayerFault,
      (importFindings (reporter severity c) o c s).Reports fault.message ↔
        PathClassifier.matches i.module o.crossCuts = .ok false ∧
        fault.Arises o c.path (o.classifier.resolveImport i.module c.path)) ∧
    ((∀ fault : LayerFault,
      (importFindings (reporter severity c) o c s).Reports fault.message ↔
        (importFindings (reporter severity d) o d t).Reports fault.message) ↔
      (PathClassifier.matches i.module o.crossCuts = .ok false ↔
        PathClassifier.matches j.module o.crossCuts = .ok false) ∨
      ∀ fault : LayerFault,
        ¬ fault.Arises o c.path (o.classifier.resolveImport i.module c.path)) := by
  have hfirst := reports_importFindings_fault (r := reporter severity c) (o := o) rfl hs hi
  have hsecond := reports_importFindings_fault (r := reporter severity d) (o := o) rfl ht hj
  rw [← htarget, ← hfile] at hsecond
  refine ⟨diagnostics_check_each _ o c, hfirst, ?_⟩
  simp only [hfirst, hsecond]
  constructor
  · intro hagree
    by_cases harises : ∃ fault : LayerFault,
        fault.Arises o c.path (o.classifier.resolveImport i.module c.path)
    · obtain ⟨fault, hfault⟩ := harises
      have h := hagree fault
      rw [and_iff_left hfault, and_iff_left hfault] at h
      exact .inl h
    · exact .inr (not_exists.mp harises)
  · rintro (hexempt | hnone) fault
    · rw [hexempt]
    · exact iff_of_false (fun h => hnone fault h.2) (fun h => hnone fault h.2)

def plainFile : Context :=
  importFile "src/domain/user.js" "../infrastructure/db"

def dottedFile : Context :=
  importFile "src/domain/user.js" "./../infrastructure/./db"

def detourFile : Context :=
  importFile "src/domain/user.js" "../shared/../infrastructure/db"

theorem exists_plainImport :
    ∃ s ∈ plainFile.sites [.importDecl], ∃ i, s.code.import? = some i ∧
      i.module = "../infrastructure/db" ∧
      (importFindings (reporter .warning plainFile) defaultSettings plainFile s).Reports
        dependencyRuleViolation := by
  obtain ⟨s, hs, i, hi, hmodule⟩ :
      ∃ s ∈ plainFile.sites [.importDecl],
        ∃ i, s.code.import? = some i ∧ i.module = "../infrastructure/db" :=
    exists_importSite (by decide +kernel)
  refine ⟨s, hs, i, hi, hmodule, ?_⟩
  rw [reports_importFindings_iff fits_defaults rfl hi, hmodule]
  decide +kernel

theorem layerVerdicts_agree_on_dots :
    PathClassifier.isRelative "../infrastructure/db" = true ∧
    PathClassifier.isRelative "./../infrastructure/./db" = true ∧
    ∃ s ∈ plainFile.sites [.importDecl], ∃ t ∈ dottedFile.sites [.importDecl],
      (importFindings (reporter .warning plainFile) defaultSettings plainFile s).Reports
        dependencyRuleViolation ∧
      ∀ fault : LayerFault,
        (importFindings (reporter .warning plainFile) defaultSettings plainFile s).Reports
            fault.message ↔
          (importFindings (reporter .warning dottedFile) defaultSettings dottedFile t).Reports
            fault.message := by
  have hplain : PathClassifier.isRelative "../infrastructure/db" = true := by decide +kernel
  have hdotted : PathClassifier.isRelative "./../infrastructure/./db" = true := by decide +kernel
  obtain ⟨s, hs, i, hi, hmodule, hreports⟩ := exists_plainImport
  obtain ⟨t, ht, j, hj, hmodule'⟩ :
      ∃ t ∈ dottedFile.sites [.importDecl],
        ∃ j, t.code.import? = some j ∧ j.module = "./../infrastructure/./db" :=
    exists_importSite (by decide +kernel)
  have htarget : defaultSettings.classifier.resolveImport i.module plainFile.path =
      defaultSettings.classifier.resolveImport j.module dottedFile.path := by
    rw [hmodule, hmodule']
    decide +kernel
  have hpath : plainFile.path = dottedFile.path := by decide +kernel
  obtain ⟨-, -, hiff⟩ := layerVerdicts_agree_iff defaultSettings .warning (fun _ => false) hpath hi
    hj (hmodule ▸ hplain) (hmodule' ▸ hdotted) htarget
  refine ⟨hplain, hdotted, s, hs, t, ht, hreports, hiff.mpr (.inl ?_)⟩
  rw [hmodule, hmodule']
  decide +kernel

theorem layerVerdicts_differ_on_detour :
    PathClassifier.isRelative "../infrastructure/db" = true ∧
    PathClassifier.isRelative "../shared/../infrastructure/db" = true ∧
    Settings.ofOptions schema.defaults = .ok defaultSettings ∧
    defaultSettings.classifier.aliases = [] ∧
    plainFile.path = detourFile.path ∧
    defaultSettings.classifier.resolveImport "../infrastructure/db" plainFile.path =
      defaultSettings.classifier.resolveImport "../shared/../infrastructure/db" detourFile.path ∧
    (Detector.check ⟨.architecture defaultSettings, .warning⟩ (fun _ => false) plainFile).Reports
      dependencyRuleViolation ∧
    ∀ m, ¬ (Detector.check ⟨.architecture defaultSettings, .warning⟩ (fun _ => false)
      detourFile).Reports m := by
  have hnone : (Detector.check ⟨.architecture defaultSettings, .warning⟩ (fun _ => false)
      detourFile).diagnostics = [] := List.isEmpty_iff.mp (by decide +kernel)
  refine ⟨by decide +kernel, by decide +kernel, ofOptions_defaults, rfl, by decide +kernel,
    by decide +kernel, ?_, fun m hm => ?_⟩
  · obtain ⟨s, hs, i, -, -, x, hx, hid⟩ := exists_plainImport
    refine ⟨x, ?_, hid⟩
    change x ∈ (check _ defaultSettings plainFile).diagnostics
    rw [diagnostics_check _ fits_defaults]
    exact List.mem_flatMap.mpr ⟨s, hs, hx⟩
  · obtain ⟨x, hx, -⟩ := hm
    rw [hnone] at hx
    cases hx

end Architecture

end DesignLint
