import DesignLint.Proofs.Rule.Profiles
import Mathlib.Data.List.Flatten

namespace DesignLint

namespace Findings

variable {f g : Findings}

theorem sublist_when {condition condition' : Bool} (h : condition = true → condition' = true)
    (hfg : f.diagnostics.Sublist g.diagnostics) :
    (when condition f).diagnostics.Sublist (when condition' g).diagnostics := by
  cases condition with
  | true =>
    rw [h rfl]
    exact hfg
  | false => exact List.nil_sublist _

theorem sublist_append {f' g' : Findings} (hf : f.stopped = .none) (hg : g.stopped = .none)
    (h : f.diagnostics.Sublist g.diagnostics) (h' : f'.diagnostics.Sublist g'.diagnostics) :
    (f ++ f').diagnostics.Sublist (g ++ g').diagnostics := by
  rw [diagnostics_append hf, diagnostics_append hg]
  exact h.append h'

theorem sublist_each {α : Type} {search search' : α → Findings} {items : List α}
    (hs : ∀ a ∈ items, (search a).stopped = .none) (hs' : ∀ a ∈ items, (search' a).stopped = .none)
    (h : ∀ a, (search a).diagnostics.Sublist (search' a).diagnostics) :
    (each search items).diagnostics.Sublist (each search' items).diagnostics := by
  rw [diagnostics_each hs, diagnostics_each hs']
  exact List.Sublist.flatMap_right items fun a _ => h a

end Findings

namespace OpenClosed

structure Mode where
  strict : Bool
  enums : Bool
  factories : Bool

abbrev Settings.inMode (o : Settings) (mode : Mode) : Settings :=
  { o with strict := mode.strict, allowEnums := mode.enums, allowFactories := mode.factories }

def testsEnumeration (s : Site) : Bool :=
  enumWord.foundIn (discriminantText s).toList

def isInFactory (s : Site) : Bool :=
  s.enclosingScope.any fun f =>
    let name := Text.lower (Site.functionName f).toList
    ["factory", "create", "builder"].any fun part => Text.occurs part.toList name

def Mode.exempts (mode : Mode) (s : Site) : Bool :=
  !mode.strict && ((mode.enums && testsEnumeration s) || (mode.factories && isInFactory s))

def Mode.Relaxes (loose tight : Mode) : Prop :=
  ∀ s, loose.exempts s = false → tight.exempts s = false

theorem Mode.relaxes_strict (enums factories : Bool) :
    Relaxes ⟨false, enums, factories⟩ ⟨true, enums, factories⟩ := by
  intro s _
  rfl

theorem Mode.relaxes_enums (strict factories : Bool) :
    Relaxes ⟨strict, true, factories⟩ ⟨strict, false, factories⟩ := by
  intro s h
  cases strict with
  | true => rfl
  | false =>
    rw [exempts, Bool.not_false, Bool.true_and, Bool.or_eq_false_iff] at h ⊢
    exact ⟨rfl, h.2⟩

theorem Mode.relaxes_factories (strict enums : Bool) :
    Relaxes ⟨strict, enums, true⟩ ⟨strict, enums, false⟩ := by
  intro s h
  cases strict with
  | true => rfl
  | false =>
    rw [exempts, Bool.not_false, Bool.true_and, Bool.or_eq_false_iff] at h ⊢
    exact ⟨h.1, rfl⟩

variable {r : Reporter} {o : Settings} {loose tight mode : Mode}

theorem isExempt_inMode (o : Settings) (mode : Mode) (s : Site) :
    isExempt (o.inMode mode) s (discriminantText s) = mode.exempts s := rfl

theorem fits_inMode (fits : o.Fits) (mode : Mode) : (o.inMode mode).Fits :=
  ⟨fits.modificationPatterns, fits.extensionPatterns, fits.excludedFiles⟩

def switchFindings (r : Reporter) (o : Settings) (s : Site) : Findings :=
  .when (o.maxSwitchCases < Int.ofNat (caseCount s))
    (r.report tooManySwitchCases s
      [("count", .int (Int.ofNat (caseCount s))), ("max", .int o.maxSwitchCases)]) ++
  .when (typeProperty.foundIn (discriminantText s).toList)
    (r.report extensionViolation s [("construct", .text "switch statement")]) ++
  .when (typeLiteral.foundIn s.code.text.toList) (r.report magicTypeValues s [])

theorem checkSwitch_inMode (r : Reporter) (o : Settings) (mode : Mode) (s : Site) :
    checkSwitch r (o.inMode mode) s = .when (!mode.exempts s) (switchFindings r o s) := by
  have hcases : checkSwitch r (o.inMode mode) s =
      if mode.exempts s then .none else switchFindings r o s := rfl
  rw [hcases]
  cases mode.exempts s with
  | true => rfl
  | false => rfl

section Relaxed

variable (h : loose.Relaxes tight)
include h

theorem sublist_checkSwitch (s : Site) :
    (checkSwitch r (o.inMode loose) s).diagnostics.Sublist
      (checkSwitch r (o.inMode tight) s).diagnostics := by
  rw [checkSwitch_inMode, checkSwitch_inMode]
  refine Findings.sublist_when (fun hloose => ?_) (.refl _)
  rw [Bool.not_eq_true'] at hloose ⊢
  exact h s hloose

theorem sublist_checkSite (s : Site) :
    (checkSite r (o.inMode loose) s).diagnostics.Sublist
      (checkSite r (o.inMode tight) s).diagnostics := by
  rw [checkSite, checkSite]
  split
  · exact sublist_checkSwitch h s
  · rw [checkBranch, checkBranch]
  · rw [checkBinary, checkBinary]
  · exact .refl _
  · exact .refl _

theorem isSelective_of_relaxes {s : Site} (hs : isSelective (o.inMode loose) s = true) :
    isSelective (o.inMode tight) s = true := by
  rw [isSelective, isExempt_inMode, Bool.or_eq_true, Bool.and_eq_true, Bool.not_eq_true'] at hs ⊢
  exact hs.imp_left fun hswitch => ⟨hswitch.1, h s hswitch.2⟩

variable {sites : List Site} {f : Site}

theorem selects_of_relaxes (hf : selects (o.inMode loose) sites f = true) :
    selects (o.inMode tight) sites f = true := by
  obtain ⟨s, hs, hselective⟩ := List.any_eq_true.mp hf
  obtain ⟨howns, hselective⟩ := Bool.and_eq_true_iff.mp hselective
  refine List.any_eq_true.mpr ⟨s, hs, Bool.and_eq_true_iff.mpr ⟨howns, ?_⟩⟩
  exact isSelective_of_relaxes h hselective

theorem isProfiled_of_relaxes (hf : isProfiled (o.inMode loose) sites f = true) :
    isProfiled (o.inMode tight) sites f = true := by
  rw [isProfiled, Bool.or_eq_true] at hf ⊢
  exact hf.imp_right (selects_of_relaxes h)

-- Two modes see the same type tests, so their profiles differ in the mark of a switch alone.
theorem sublist_checkFunction {p q : Profile} (hp : p.Describes (o.inMode loose) sites f)
    (hq : q.Describes (o.inMode tight) sites f) :
    (checkFunction r (o.inMode loose) f p).diagnostics.Sublist
      (checkFunction r (o.inMode tight) f q).diagnostics := by
  have htests : p.typeTests = q.typeTests := hp.typeTests.trans hq.typeTests.symm
  have hidioms : p.idioms.length = q.idioms.length := hp.length_idioms.trans hq.length_idioms.symm
  have hmarks (hmarked : (p.hasSwitch || p.hasChain) = true) :
      (q.hasSwitch || q.hasChain) = true := by
    rw [hp.selects] at hmarked
    rw [hq.selects]
    exact selects_of_relaxes h hmarked
  have hmentions : mentionsExtension (o.inMode loose) f = mentionsExtension (o.inMode tight) f :=
    rfl
  rw [checkFunction, checkFunction, hmentions]
  cases mentionsExtension (o.inMode tight) f with
  | error misfit => exact .refl _
  | ok mentioned =>
    cases mentioned with
    | true => exact .refl _
    | false =>
      simp only [Findings.given, htests, hidioms]
      refine Findings.sublist_append (by simp) (by simp) (.refl _) ?_
      refine Findings.sublist_when id (Findings.sublist_append (by simp) (by simp) (.refl _) ?_)
      refine Findings.sublist_when (fun hcomplex => ?_) (.refl _)
      rw [Bool.and_eq_true] at hcomplex ⊢
      exact ⟨hmarks hcomplex.1, hcomplex.2⟩

theorem sublist_checkProfiled {ps qs : Profiles} (hps : ps.Describe (o.inMode loose) sites f)
    (hqs : qs.Describe (o.inMode tight) sites f) :
    (checkProfiled r (o.inMode loose) ps f).diagnostics.Sublist
      (checkProfiled r (o.inMode tight) qs f).diagnostics := by
  rw [checkProfiled, checkProfiled]
  cases hp : ps.get? f.address with
  | none => exact List.nil_sublist _
  | some p =>
    have hprofiled : isProfiled (o.inMode loose) sites f = true := by
      rw [← hps.isSome, hp]
      rfl
    have hsome : (qs.get? f.address).isSome = true := by
      rw [hqs.isSome]
      exact isProfiled_of_relaxes h hprofiled
    obtain ⟨q, hq⟩ := Option.isSome_iff_exists.mp hsome
    have hdescribes := hps.profile
    have hdescribes' := hqs.profile
    rw [hp] at hdescribes
    rw [hq] at hdescribes' ⊢
    exact sublist_checkFunction h hdescribes hdescribes'

theorem sublist_check (fits : o.Fits) (c : Context) :
    (check r (o.inMode loose) c).diagnostics.Sublist
      (check r (o.inMode tight) c).diagnostics := by
  rw [check, check]
  cases Trial.any (fun p => searches p c.path.toList) o.excludedFiles with
  | error misfit => exact .refl _
  | ok excluded =>
    cases excluded with
    | true => exact .refl _
    | false =>
      have hsites (mode : Mode) (s : Site) : (checkSite r (o.inMode mode) s).stopped = none :=
        stopped_checkSite r (fits_inMode fits mode) s
      have hfunctions (mode : Mode) (profiles : Profiles) (s : Site) :
          (checkProfiled r (o.inMode mode) profiles s).stopped = none :=
        stopped_checkProfiled (fits_inMode fits mode) profiles s
      have hdescribe (mode : Mode) (sites : List Site) (f : Site) :
          Profiles.Describe (o.inMode mode) sites f (sites.foldl (note (o.inMode mode)) []) :=
        describe_foldl (describe_empty (o.inMode mode) f) sites
      refine Findings.sublist_append (Findings.stopped_each fun s _ => hsites loose s)
        (Findings.stopped_each fun s _ => hsites tight s) ?_ ?_
      · exact Findings.sublist_each (fun s _ => hsites loose s) (fun s _ => hsites tight s)
          (sublist_checkSite h)
      · exact Findings.sublist_each (fun s _ => hfunctions loose _ s)
          (fun s _ => hfunctions tight _ s)
          fun s => sublist_checkProfiled h (hdescribe loose _ s) (hdescribe tight _ s)

end Relaxed

def switchDiagnostic (r : Reporter) (o : Settings) (s : Site) : Diagnostic :=
  r.diagnostic tooManySwitchCases s
    [("count", .int (Int.ofNat (caseCount s))), ("max", .int o.maxSwitchCases)]

def isLongSwitch (o : Settings) (s : Site) : Bool :=
  s.kind = .selection && o.maxSwitchCases < Int.ofNat (caseCount s)

def longSwitches (o : Settings) (mode : Mode) (sites : List Site) : List Site :=
  sites.filter fun s => isLongSwitch o s && !mode.exempts s

theorem about_checkSite_tooManySwitchCases (s : Site) :
    (checkSite r (o.inMode mode) s).about tooManySwitchCases =
      if isLongSwitch o s && !mode.exempts s then [switchDiagnostic r o s] else [] := by
  have hids : tooManySwitchCases.id ≠ extensionViolation.id ∧
      tooManySwitchCases.id ≠ magicTypeValues.id := by decide
  rw [checkSite, isLongSwitch]
  split
  · next hk =>
    rw [checkSwitch_inMode, Findings.about_when, hk]
    cases mode.exempts s with
    | true => simp
    | false =>
      simp [switchFindings, Findings.about_append, Reporter.about_report, hids, switchDiagnostic]
  · next hk =>
    have hid : tooManySwitchCases.id ≠ longIfElseChain.id := by decide
    rw [about_checkBranch s (by decide), Reporter.about_report, if_neg hid, ite_self, hk]
    rfl
  · next hk =>
    rw [about_checkBinary s (by decide), hk]
    rfl
  · next hk =>
    rw [about_checkAssignment s (by decide), hk]
    rfl
  · next hselection _ _ _ =>
    rw [about_checkClass s (by decide), decide_eq_false hselection]
    rfl

section Collected

variable {path : String} {limit : Int} {root : SyntaxTree}

theorem about_check_tooManySwitchCases (fits : o.Fits)
    (hpath : o.excludes (Context.slashed path) = false) :
    (check r (o.inMode mode) (.collect path limit root)).about tooManySwitchCases =
      (longSwitches o mode (root.visitedSites limit)).map (switchDiagnostic r o) := by
  have hids : tooManySwitchCases.id ≠ missingAbstraction.id ∧
      tooManySwitchCases.id ≠ lackOfPolymorphism.id ∧
      tooManySwitchCases.id ≠ conditionalComplexity.id := by decide
  have hjudged (s : Site) : (isJudged s && (isLongSwitch o s && !mode.exempts s)) =
      (isLongSwitch o s && !mode.exempts s) := by
    by_cases hk : s.kind = .selection <;> simp [isJudged, isLongSwitch, hk]
  have hfunctions : ((root.visitedSites limit).filter fun f => (Site.kind f).opensScope).flatMap
      (fun f => (checkProfiled r (o.inMode mode)
        (profiles (o.inMode mode) (root.visitedSites limit)) f).about tooManySwitchCases) = [] := by
    refine List.flatMap_eq_nil_iff.mpr fun f _ => ?_
    rw [about_checkProfiled (fits_inMode fits mode) (describe_profiles _ _ f)]
    simp [verdict, Reporter.about_report, hids]
  rw [about_check (fits_inMode fits mode) hpath, hfunctions, List.append_nil]
  simp only [about_checkSite_tooManySwitchCases, flatMap_filter_ite, hjudged]
  rfl

theorem filter_longSwitches {s : Site} (hs : s ∈ root.visitedSites limit)
    (hlong : isLongSwitch o s = true) (hmode : mode.exempts s = false) :
    (longSwitches o mode (root.visitedSites limit)).filter (fun u => u.address = s.address) =
      [s] := by
  have hnodup : (root.visitedSites limit).Nodup :=
    (Tree.nodup_address_visited limit root).of_map Spot.address
  refine List.perm_singleton.mp ((List.perm_ext_iff_of_nodup ?_ (by simp)).mpr fun u => ?_)
  · exact (hnodup.filter _).filter _
  · rw [List.mem_filter, longSwitches, List.mem_filter, List.mem_singleton, decide_eq_true_eq]
    constructor
    · rintro ⟨⟨hu, -⟩, haddress⟩
      exact Tree.eq_of_address_eq (Tree.mem_visited_iff.mp hu).1 (Tree.mem_visited_iff.mp hs).1
        haddress
    · rintro rfl
      exact ⟨⟨hs, by simp [hlong, hmode]⟩, rfl⟩

end Collected

theorem exemptions_only_silence (r : Reporter) (fits : o.Fits) (path : String) (limit : Int)
    (root : SyntaxTree) :
    let found (mode : Mode) := check r (o.inMode mode) (.collect path limit root)
    (∀ enums factories, (found ⟨false, enums, factories⟩).diagnostics.Sublist
      (found ⟨true, enums, factories⟩).diagnostics) ∧
    (∀ strict factories, (found ⟨strict, true, factories⟩).diagnostics.Sublist
      (found ⟨strict, false, factories⟩).diagnostics) ∧
    (∀ strict enums, (found ⟨strict, enums, true⟩).diagnostics.Sublist
      (found ⟨strict, enums, false⟩).diagnostics) ∧
    (o.excludes (Context.slashed path) = false → ∀ mode,
      (found mode).about tooManySwitchCases =
        (longSwitches o mode (root.visitedSites limit)).map (switchDiagnostic r o) ∧
      ∀ s ∈ root.visitedSites limit, isLongSwitch o s = true → mode.exempts s = false →
        (longSwitches o mode (root.visitedSites limit)).filter
          (fun u => u.address = s.address) = [s]) := by
  intro found
  refine ⟨?_, ?_, ?_, fun hpath mode => ⟨?_, ?_⟩⟩
  · intro enums factories
    exact sublist_check (Mode.relaxes_strict enums factories) fits _
  · intro strict factories
    exact sublist_check (Mode.relaxes_enums strict factories) fits _
  · intro strict enums
    exact sublist_check (Mode.relaxes_factories strict enums) fits _
  · exact about_check_tooManySwitchCases fits hpath
  · intro s hs hlong hmode
    exact filter_longSwitches hs hlong hmode

-- function create(x) { switch (x) { case 1: } } switch (y) { case 1: }
def factorySource : Source :=
  Text.Utf8.encode
    "function create(x) \x7b switch (x) \x7b case 1: \x7d \x7d switch (y) \x7b case 1: \x7d"

def factoryTree : ParseTree :=
  let named (type : String) (field : Option String) (start stop : Nat) (cs : List ParseTree) :
      ParseTree := .node ⟨type, start, stop, true, field⟩ cs
  let switch (start : Nat) : ParseTree :=
    named "switch_statement" none start (start + 22) [
      named "identifier" (some "value") (start + 8) (start + 9) [],
      named "switch_body" (some "body") (start + 11) (start + 22) [
        named "switch_case" none (start + 13) (start + 20) []]]
  named "program" none 0 68 [
    named "function_declaration" none 0 45 [
      named "identifier" (some "name") 9 15 [],
      named "statement_block" (some "body") 19 45 [switch 21]],
    switch 46]

def noCases : Settings :=
  { Settings.ofOptions schema.defaults with maxSwitchCases := 0 }

theorem exemptions_only_silence_factory :
    let root := SyntaxTree.ofParse factorySource factoryTree
    let found (mode : Mode) := check ⟨"ocp-violation", .warning, "src/a.js"⟩ (noCases.inMode mode)
      (.collect "src/a.js" 500 root)
    noCases.Fits ∧ noCases.excludes (Context.slashed "src/a.js") = false ∧
      (found ⟨false, true, true⟩).diagnostics.Sublist (found ⟨true, true, true⟩).diagnostics ∧
      ((found ⟨false, true, true⟩).about tooManySwitchCases).length = 1 ∧
      ((found ⟨true, true, true⟩).about tooManySwitchCases).length = 2 ∧
      ∃ s ∈ root.visitedSites 500, isLongSwitch noCases s = true ∧
        ∀ mode : Mode, mode.exempts s = false ∧
          (longSwitches noCases mode (root.visitedSites 500)).filter
            (fun u => u.address = s.address) = [s] := by
  intro root found
  have hfits : noCases.Fits :=
    ⟨fits_defaults.modificationPatterns, fits_defaults.extensionPatterns,
      fits_defaults.excludedFiles⟩
  have hpath : noCases.excludes (Context.slashed "src/a.js") = false := by decide +kernel
  obtain ⟨hstrict, -, -, honce⟩ := exemptions_only_silence
    ⟨"ocp-violation", .warning, "src/a.js"⟩ hfits "src/a.js" 500 root
  have hplain : (root.visitedSites 500).any (fun s =>
      isLongSwitch noCases s && !testsEnumeration s && !isInFactory s) = true := by decide +kernel
  obtain ⟨s, hs, hswitch⟩ := List.any_eq_true.mp hplain
  simp only [Bool.and_eq_true, Bool.not_eq_true'] at hswitch
  obtain ⟨⟨hlong, henum⟩, hfactory⟩ := hswitch
  have hmode (mode : Mode) : mode.exempts s = false := by
    simp [Mode.exempts, henum, hfactory]
  refine ⟨hfits, hpath, hstrict true true, ?_, ?_, s, hs, hlong, fun mode => ⟨hmode mode, ?_⟩⟩
  · rw [(honce hpath ⟨false, true, true⟩).1, List.length_map]
    decide +kernel
  · rw [(honce hpath ⟨true, true, true⟩).1, List.length_map]
    decide +kernel
  · exact (honce hpath mode).2 s hs hlong (hmode mode)

end OpenClosed

end DesignLint
