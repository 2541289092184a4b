import DesignLint.Proofs.Rule.Substitution
import DesignLint.Rule.Catalog

namespace DesignLint

open Trial

def AreTexts (items : List Value) : Prop :=
  ∀ v ∈ items, v.asText?.isSome

instance (items : List Value) : Decidable (AreTexts items) :=
  inferInstanceAs (Decidable (∀ v ∈ items, _))

namespace AreTexts

variable {items : List Value}

theorem eq_text (h : AreTexts items) {v : Value} (hv : v ∈ items) : ∃ s, v = .text s := by
  obtain ⟨s, hs⟩ := Option.isSome_iff_exists.mp (h v hv)
  exact ⟨s, Value.asText?_eq_some.mp hs⟩

theorem tail {v : Value} (h : AreTexts (v :: items)) : AreTexts items :=
  fun w hw => h w (by simp [hw])

theorem settles_any (h : AreTexts items) (test : String → Bool) :
    (Trial.any (fun v => v.asText.map test) items).Settles := by
  refine Trial.settles_any fun v hv => ?_
  obtain ⟨s, rfl⟩ := h.eq_text hv
  exact settles_ok (test s)

end AreTexts

theorem PathClassifier.settles_matches (path : String) {patterns : List Value}
    (h : AreTexts patterns) : (PathClassifier.matches path patterns).Settles :=
  h.settles_any _

theorem PathClassifier.settles_classify {c : PathClassifier}
    (h : ∀ l ∈ c.layers, AreTexts l.patterns) (path : String) : (c.classify path).Settles := by
  rw [classify]
  split
  · exact settles_ok none
  · exact settles_find? fun l hl => (h l hl).settles_any _

theorem Responsibility.stopped_check (r : Reporter) (limits : Limits) (c : Context) :
    (check r limits c).stopped = none := by
  refine Findings.stopped_each fun s _ => ?_
  split
  · rw [checkClass]
    split
    · rfl
    · simp [exceeds]
  · simp [checkFunction, exceeds]

theorem Substitution.stopped_check (r : Reporter) (o : Settings) (c : Context) :
    (check r o c).stopped = none :=
  Findings.stopped_each fun d _ => stopped_checkClass r o c d

namespace Segregation

theorem settles_relevant {o : Settings} (h : AreTexts o.excluded) (c : Context) (d : Declaration)
    (methods : List Method) : (relevant o c d methods).Settles := by
  induction methods with
  | nil => exact settles_ok []
  | cons m rest ih =>
    obtain ⟨excluded, he⟩ : (isExcluded o m).Settles := h.settles_any _
    rw [relevant, he]
    exact ih.map _

theorem stopped_check (r : Reporter) {o : Settings} (h : AreTexts o.excluded) (c : Context) :
    (check r o c).stopped = none := by
  refine Findings.stopped_each fun d _ => ?_
  exact Findings.stopped_given (settles_relevant h c d d.methods) fun methods => by
    simp [checkMethods]

end Segregation

namespace Inversion

structure Settings.Fits (o : Settings) : Prop where
  concrete : AreTexts o.concrete
  abstract : AreTexts o.abstract
  allowedFiles : AreTexts o.allowedFiles
  suffixes : AreTexts o.suffixes
  abstractHeads : AreTexts o.abstractHeads

theorem settles_stripSuffixes {suffixes : List Value} (h : AreTexts suffixes) (path : List Char) :
    (stripSuffixes suffixes path).Settles := by
  induction suffixes generalizing path with
  | nil => exact settles_ok path
  | cons v rest ih =>
    obtain ⟨s, rfl⟩ := h.eq_text (v := v) (by simp)
    exact ih h.tail _

variable (r : Reporter) {o : Settings} (fits : o.Fits)
include fits

theorem settles_suggestion (probe : String → Bool) (path importer : String) :
    (suggestion o probe path importer).Settles := by
  rw [suggestion]
  split
  · exact settles_ok _
  · exact (settles_stripSuffixes fits.suffixes _).map _

theorem settles_isConcreteName (name : String) : (isConcreteName o name).Settles := by
  obtain ⟨concrete, hc⟩ := fits.suffixes.settles_any (Text.endsWith name ·)
  rw [isConcreteName, hc]
  cases concrete with
  | true => exact (fits.abstractHeads.settles_any _).map _
  | false => exact settles_ok false

theorem stopped_checkSpecifier (site : Site) (s : Specifier) :
    (checkSpecifier r o site s).stopped = none := by
  rw [checkSpecifier]
  split
  · rfl
  · exact Findings.stopped_given (settles_isConcreteName fits _) fun concrete => by simp

theorem stopped_checkTypeImport (probe : String → Bool) (c : Context) (target : Site)
    (path : String) : (checkTypeImport r o probe c target path).stopped = none := by
  refine Findings.stopped_given (PathClassifier.settles_matches _ fits.concrete) fun concrete => ?_
  split
  · rfl
  · refine Findings.stopped_given (PathClassifier.settles_matches _ fits.abstract)
      fun abstract => ?_
    split
    · rfl
    · refine Findings.stopped_given (settles_suggestion fits probe path c.path) fun suggested => ?_
      cases suggested with
      | none => simp [Findings.none]
      | some v => simp [suggest]

omit fits in
theorem stopped_reportConcrete (target : Site) (path : String) (suggested : Option Value) :
    (reportConcrete r o target path suggested).stopped = none := by
  cases suggested with
  | none => simp [reportConcrete]
  | some v => simp [reportConcrete, suggest]

theorem stopped_checkValueImport (probe : String → Bool) (c : Context) (site target : Site)
    (i : Import) : (checkValueImport r o probe c site target i).stopped = none := by
  have hclasses {wanted : Bool} :
      (Findings.when wanted (.each (checkSpecifier r o site) i.specifiers)).stopped = none :=
    Findings.stopped_when (Findings.stopped_each fun s _ => stopped_checkSpecifier r fits site s)
  refine Findings.stopped_given (PathClassifier.settles_matches _ fits.concrete) fun concrete => ?_
  split
  · exact hclasses
  · refine Findings.stopped_given (PathClassifier.settles_matches _ fits.abstract)
      fun abstract => ?_
    split
    · rfl
    · refine Findings.stopped_given (settles_suggestion fits probe i.module c.path)
        fun suggested => ?_
      rw [Findings.stopped_append (stopped_reportConcrete r target i.module suggested)]
      exact hclasses

theorem stopped_check (probe : String → Bool) (c : Context) :
    (check r o probe c).stopped = none := by
  refine Findings.stopped_given (PathClassifier.settles_matches _ fits.allowedFiles)
    fun allowed => ?_
  split
  · rfl
  · refine Findings.stopped_each fun s _ => ?_
    split
    · next i _ =>
      rw [checkImport]
      split
      · rfl
      · split
        · exact stopped_checkTypeImport r fits probe c _ i.module
        · exact stopped_checkValueImport r fits probe c s _ i
    · rfl

end Inversion

namespace Architecture

structure Settings.Fits (o : Settings) : Prop where
  frameworks : AreTexts o.frameworks
  interfaces : AreTexts o.interfaces
  crossCuts : AreTexts o.crossCuts
  businessLogic : AreTexts o.businessLogic
  tests : AreTexts o.tests
  userInterface : AreTexts o.userInterface
  databases : AreTexts o.databases
  layers : ∀ l ∈ o.classifier.layers, AreTexts l.patterns

theorem settles_matchesModule (path : String) {modules : List Value} (h : AreTexts modules) :
    (matchesModule path modules).Settles :=
  h.settles_any _

theorem splitGlobs_of_areTexts {items : List Value} (h : AreTexts items) :
    ∃ globs modules, splitGlobs items = .ok (globs, modules) ∧ AreTexts globs ∧
      AreTexts modules := by
  induction items with
  | nil => exact ⟨[], [], rfl, by decide, by decide⟩
  | cons v rest ih =>
    obtain ⟨globs, modules, hrest, hg, hm⟩ := ih h.tail
    obtain ⟨s, rfl⟩ := h.eq_text (v := v) (by simp)
    rw [splitGlobs, hrest, hasStar]
    cases s.toList.contains '*' with
    | true => exact ⟨.text s :: globs, modules, rfl, List.forall_mem_cons.mpr ⟨rfl, hg⟩, hm⟩
    | false => exact ⟨globs, .text s :: modules, rfl, hg, List.forall_mem_cons.mpr ⟨rfl, hm⟩⟩

theorem stopped_between {from_ : Standpoint} {t : Target}
    {check : Layer → Layer → Target → Findings}
    (h : ∀ inner outer, (check inner outer t).stopped = none) :
    (between from_ t check).stopped = none := by
  rw [between]
  split
  · exact h _ _
  · rfl

variable (r : Reporter) {o : Settings} (fits : o.Fits)
include fits

theorem settles_isUserInterface (path resolved : String) (external : Bool) :
    (isUserInterface o path resolved external).Settles := by
  obtain ⟨globs, modules, hsplit, hglobs, hmodules⟩ := splitGlobs_of_areTexts fits.userInterface
  rw [isUserInterface, hsplit]
  cases external with
  | true => exact settles_matchesModule path hmodules
  | false => exact PathClassifier.settles_matches resolved hglobs

theorem stopped_checkBoundary (inner outer : Layer) (t : Target) :
    (checkBoundary r o inner outer t).stopped = none := by
  rw [checkBoundary]
  split
  · exact Findings.stopped_given (PathClassifier.settles_matches _ fits.interfaces) fun isPort => by
      simp
  · rfl

theorem stopped_checkFramework (from_ : Standpoint) (t : Target) :
    (checkFramework r o from_ t).stopped = none := by
  rw [checkFramework]
  split
  · exact Findings.stopped_given (settles_matchesModule _ fits.frameworks) fun found => by simp
  · rfl

theorem stopped_checkUserInterface (from_ : Standpoint) (t : Target) :
    (checkUserInterface r o from_ t).stopped = none := by
  rw [checkUserInterface]
  split
  · exact Findings.stopped_given (settles_isUserInterface fits _ _ _) fun found => by simp
  · rfl

theorem stopped_checkDatabase (from_ : Standpoint) (t : Target) :
    (checkDatabase r o from_ t).stopped = none := by
  rw [checkDatabase]
  split
  · exact Findings.stopped_given (settles_matchesModule _ fits.databases) fun found => by simp
  · rfl

theorem stopped_checkTarget (from_ : Standpoint) (t : Target) :
    (checkTarget r o from_ t).stopped = none := by
  simp only [checkTarget, Findings.stopped_append_eq_none_iff]
  refine ⟨⟨⟨⟨⟨⟨?_, ?_⟩, ?_⟩, ?_⟩, ?_⟩, ?_⟩, ?_⟩
  · exact stopped_between fun inner outer => by simp [checkLayers]
  · exact stopped_checkFramework r fits from_ t
  · exact stopped_between fun inner outer => by simp [checkEntity]
  · exact stopped_between fun inner outer => by simp [checkSkip]
  · exact stopped_between fun inner outer => stopped_checkBoundary r fits inner outer t
  · exact stopped_checkUserInterface r fits from_ t
  · exact stopped_checkDatabase r fits from_ t

theorem stopped_checkImport (from_ : Standpoint) (site : Site) (path : String) :
    (checkImport r o from_ site path).stopped = none := by
  rw [checkImport]
  split
  · exact stopped_checkTarget r fits from_ _
  · refine Findings.stopped_given (PathClassifier.settles_matches _ fits.crossCuts) fun shared => ?_
    split
    · rfl
    · exact Findings.stopped_given (PathClassifier.settles_classify fits.layers _) fun layer =>
        stopped_checkTarget r fits from_ _

theorem stopped_checkSite (from_ : Standpoint) (s : Site) :
    (checkSite r o from_ s).stopped = none := by
  rw [checkSite]
  split
  · rfl
  · split
    · rfl
    · refine Findings.stopped_given (PathClassifier.settles_matches _ fits.crossCuts)
        fun shared => ?_
      split
      · rfl
      · exact stopped_checkImport r fits _ s _

theorem stopped_check (c : Context) : (check r o c).stopped = none := by
  refine Findings.stopped_given (PathClassifier.settles_matches _ fits.tests) fun isTest => ?_
  split
  · rfl
  · refine Findings.stopped_given (PathClassifier.settles_matches _ fits.crossCuts) fun shared => ?_
    split
    · rfl
    · refine Findings.stopped_given (PathClassifier.settles_classify fits.layers _) fun layer => ?_
      exact Findings.stopped_given (PathClassifier.settles_matches _ fits.businessLogic)
        fun isBusiness => Findings.stopped_each fun s _ => stopped_checkSite r fits _ s

end Architecture

namespace Repository

structure Settings.Fits (o : Settings) : Prop where
  businessWords : AreTexts o.businessWords
  storageWords : AreTexts o.storageWords
  interfaceDirectories : AreTexts o.interfaceDirectories
  implementationDirectories : AreTexts o.implementationDirectories
  infrastructureImports : AreTexts o.infrastructureImports

theorem settles_inDirectory (path : String) {directories : List Value} (h : AreTexts directories) :
    (inDirectory path directories).Settles :=
  h.settles_any _

theorem stopped_checkPlace (r : Reporter) (d : Declaration) {directories : List Value}
    (h : AreTexts directories) (kind layer : String) :
    (checkPlace r d directories kind layer).stopped = none :=
  Findings.stopped_given (settles_inDirectory r.file h) fun there => by simp

variable (r : Reporter) {o : Settings} (fits : o.Fits)
include fits

theorem stopped_checkName (m : Method) : (checkName r o m).stopped = none := by
  refine Findings.stopped_append_eq_none_iff.mpr ⟨?_, ?_⟩
  · exact Findings.stopped_given (fits.businessWords.settles_any _) fun found => by simp
  · exact Findings.stopped_given (fits.storageWords.settles_any _) fun found => by simp

theorem stopped_checkSignature (m : Method) : (checkSignature r o m).stopped = none := by
  refine Findings.stopped_append_eq_none_iff.mpr ⟨stopped_checkName r fits m, ?_⟩
  split
  · simp
  · rfl

theorem stopped_checkMethod (m : Method) : (checkMethod r o m).stopped = none :=
  Findings.stopped_append_eq_none_iff.mpr ⟨stopped_checkName r fits m, by simp⟩

theorem stopped_checkInterface (d : Declaration) : (checkInterface r o d).stopped = none := by
  simp only [checkInterface, Findings.stopped_append_eq_none_iff]
  refine ⟨⟨⟨?_, ?_⟩, ?_⟩, ?_⟩
  · exact stopped_checkPlace r d fits.interfaceDirectories _ _
  · simp
  · simp [checkWidth]
  · exact Findings.stopped_each fun m _ => stopped_checkSignature r fits m

theorem stopped_checkImplementation (d : Declaration) :
    (checkImplementation r o d).stopped = none := by
  simp only [checkImplementation, Findings.stopped_append_eq_none_iff]
  refine ⟨⟨⟨?_, ?_⟩, ?_⟩, ?_⟩
  · exact stopped_checkPlace r d fits.implementationDirectories _ _
  · simp
  · simp [checkWidth]
  · exact Findings.stopped_each fun m _ => stopped_checkMethod r fits m

theorem stopped_check (c : Context) : (check r o c).stopped = none := by
  refine Findings.stopped_given (settles_inDirectory _ fits.interfaceDirectories) fun inDomain => ?_
  refine Findings.stopped_each fun s _ => ?_
  split
  · refine Findings.stopped_when ?_
    exact Findings.stopped_given (fits.infrastructureImports.settles_any _) fun found => by simp
  · split
    · rw [checkDeclaration]
      split
      · rfl
      · split
        · exact stopped_checkInterface r fits _
        · exact stopped_checkImplementation r fits _
    · rfl

end Repository

namespace OpenClosed

def isReadable (pattern : Value) : Bool :=
  (pattern.asText?.bind Pattern.read?).isSome

structure Settings.Fits (o : Settings) : Prop where
  modificationPatterns : ∀ v ∈ o.modificationPatterns, isReadable v
  extensionPatterns : ∀ v ∈ o.extensionPatterns, isReadable (.text ("\\b" ++ v.plain ++ "\\b"))
  excludedFiles : ∀ v ∈ o.excludedFiles, isReadable v

theorem fits_defaults : (Settings.ofOptions schema.defaults).Fits where
  modificationPatterns := by decide +kernel
  extensionPatterns := by decide +kernel
  excludedFiles := by decide +kernel

def isFoundIn (pattern : Value) (text : List Char) : Bool :=
  (pattern.asText?.bind Pattern.read?).any fun p => p.foundIn text

theorem searches_eq_ok {pattern : Value} (h : isReadable pattern) (text : List Char) :
    searches pattern text = .ok (isFoundIn pattern text) := by
  obtain ⟨p, hp⟩ := Option.isSome_iff_exists.mp h
  rw [isFoundIn, hp, Option.any_some]
  obtain ⟨spelled, hs, hr⟩ := Option.bind_eq_some_iff.mp hp
  obtain rfl := Value.asText?_eq_some.mp hs
  simp only [searches, Value.asText, hr]

theorem settles_searches {pattern : Value} (h : isReadable pattern) (text : List Char) :
    (searches pattern text).Settles :=
  ⟨isFoundIn pattern text, searches_eq_ok h text⟩

variable (r : Reporter) {o : Settings} (fits : o.Fits)
include fits

theorem stopped_checkSite (s : Site) : (checkSite r o s).stopped = none := by
  rw [checkSite]
  split
  · rw [checkSwitch]
    split
    · rfl
    · simp
  · refine Findings.stopped_append_eq_none_iff.mpr ⟨by simp, ?_⟩
    split
    · rfl
    · split
      · simp
      · rfl
  · refine Findings.stopped_each fun pattern hp => ?_
    exact Findings.stopped_given (settles_searches (fits.modificationPatterns pattern hp) _)
      fun found => by simp
  · simp [checkAssignment]
  · rw [checkClass]
    split
    · rfl
    · simp

theorem stopped_checkFunction (s : Site) (p : Profile) :
    (checkFunction r o s p).stopped = none := by
  have hmentions : (mentionsExtension o s).Settles :=
    settles_any fun v hv => settles_searches (fits.extensionPatterns v hv) _
  refine Findings.stopped_given hmentions fun mentioned => ?_
  split
  · rfl
  · simp

theorem stopped_check (c : Context) : (check r o c).stopped = none := by
  have hexcluded : (Trial.any (fun p => searches p c.path.toList) o.excludedFiles).Settles :=
    settles_any fun v hv => settles_searches (fits.excludedFiles v hv) _
  refine Findings.stopped_given hexcluded fun excluded => ?_
  split
  · rfl
  · refine Findings.stopped_append_eq_none_iff.mpr ⟨?_, ?_⟩
    · exact Findings.stopped_each fun s _ => stopped_checkSite r fits s
    · refine Findings.stopped_each fun s _ => ?_
      split
      · exact stopped_checkFunction r fits s _
      · rfl

end OpenClosed

def Site.LacksKeyword (s : Site) : Prop :=
  s.kind = .declarator ∧ (∃ n : Site, s.link .name = some n ∧ n.kind = .identifier) ∧
    ∃ p : Site, s.parent? = some p ∧ p.code.text ≠ "" ∧ ∀ c ∈ p.code.text.toList, Text.isBlank c

theorem Text.firstWord_eq_nil_iff (s : List Char) :
    (s.dropWhile isBlank).takeWhile (!isBlank ·) = [] ↔ ∀ c ∈ s, isBlank c := by
  induction s with
  | nil => simp
  | cons c rest ih => cases h : isBlank c <;> simp [h, ih]

theorem Site.declarationKeyword?_eq_none_iff (s : Site) :
    s.declarationKeyword? = none ↔ ∃ p : Site, s.parent? = some p ∧ p.code.text ≠ "" ∧
      ∀ c ∈ p.code.text.toList, Text.isBlank c := by
  rw [declarationKeyword?]
  cases s.parent? with
  | none => simp
  | some p =>
    by_cases htext : (Site.code p).text = ""
    · simp [htext]
    · simp [htext, ← Text.firstWord_eq_nil_iff]

theorem Naming.stopped_complain (r : Reporter) (m : Message) (wanted fits : Bool) (s : Site)
    (name : String) : (complain r m wanted fits s name).stopped = none := by
  simp [complain]

theorem Naming.isSome_stopped_checkDeclarator (r : Reporter) (o : Settings) (s n : Site)
    (name : String) :
    (checkDeclarator r o s n name).stopped.isSome ↔ s.declarationKeyword? = none := by
  rw [checkDeclarator]
  cases s.declarationKeyword? with
  | none => simp [Findings.stop]
  | some keyword =>
    dsimp only
    split
    · simp [stopped_complain]
    · split
      · simp [stopped_complain]
      · simp [Findings.none]

theorem Naming.isSome_stopped_checkSite (r : Reporter) (o : Settings) (s : Site) :
    (checkSite r o s).stopped.isSome ↔ s.LacksKeyword := by
  rw [checkSite, Site.LacksKeyword, ← Site.declarationKeyword?_eq_none_iff]
  cases s.link .name with
  | none => simp [Findings.none]
  | some n =>
    by_cases hn : Site.kind n = .identifier
    · cases hk : s.kind with
      | declarator => simp [hn, isSome_stopped_checkDeclarator]
      | _ => simp [hn, stopped_complain]
    · simp [hn, Findings.none]

theorem Naming.isSome_stopped_check (r : Reporter) (o : Settings) (c : Context) :
    (check r o c).stopped.isSome ↔
      ∃ s ∈ c.sites [.declarator, .classDecl, .function], Site.LacksKeyword s := by
  rw [check, Findings.isSome_stopped_each]
  simp only [isSome_stopped_checkSite]

theorem Layer.ofTable_of_sorted {entries : Fields} {layers : List Layer}
    (h : entries.mapM (fun e => ofEntry e.1 e.2) = .ok layers)
    (sorted : layers.Pairwise fun a b => decide (a.level ≤ b.level)) :
    ofTable entries = .ok layers := by
  rw [ofTable, h]
  exact congrArg Except.ok (List.mergeSort_of_pairwise sorted)

def Inversion.defaultSettings : Settings where
  concrete := Options.items schema.defaults "concrete_patterns"
  abstract := Options.items schema.defaults "abstract_patterns"
  allowedFiles := Options.items schema.defaults "allowed_files"
  skipExternal := true
  checkTypes := true
  suffixes := Options.items schema.defaults "concrete_class_suffixes"
  abstractHeads := Options.items schema.defaults "abstract_class_prefixes"
  mappings := []
  strict := false
  classifier := {}

theorem Inversion.ofOptions_defaults :
    Settings.ofOptions schema.defaults = .ok defaultSettings := rfl

theorem Inversion.fits_defaults : defaultSettings.Fits := by
  constructor <;> decide

def Architecture.defaultSettings : Settings where
  frameworks := Options.items schema.defaults "framework_patterns"
  interfaces := Options.items schema.defaults "interface_patterns"
  crossCuts := Options.items schema.defaults "allowed_cross_cuts"
  businessLogic := Options.items schema.defaults "business_logic_patterns"
  tests := Options.items schema.defaults "test_patterns"
  userInterface := Options.items schema.defaults "ui_patterns"
  databases := Options.items schema.defaults "database_patterns"
  classifier :=
    { layers := (defaultLayers.mapM fun e => Layer.ofEntry e.1 e.2).toOption.getD [] }

-- Sorting does not evaluate, but layers that are written down from the core outwards are sorted.
theorem Architecture.ofOptions_of_sorted {options : Fields} (layers : List Layer)
    (aliases : Assoc String)
    (hlayers : (Options.entries options "layers").mapM (fun e => Layer.ofEntry e.1 e.2) =
      .ok layers)
    (hsorted : layers.Pairwise fun a b => a.level < b.level)
    (haliases : PathClassifier.aliasTexts (Options.entries options "path_aliases") = .ok aliases) :
    Settings.ofOptions options = .ok {
      frameworks := Options.items options "framework_patterns"
      interfaces := Options.items options "interface_patterns"
      crossCuts := Options.items options "allowed_cross_cuts"
      businessLogic := Options.items options "business_logic_patterns"
      tests := Options.items options "test_patterns"
      userInterface := Options.items options "ui_patterns"
      databases := Options.items options "database_patterns"
      classifier := ⟨layers, PathClassifier.aliasesOf aliases⟩ } := by
  have htable : Layer.ofTable (Options.entries options "layers") = .ok layers :=
    Layer.ofTable_of_sorted hlayers (hsorted.imp fun hlt => decide_eq_true (Int.le_of_lt hlt))
  have hnodup : (layers.map Layer.level).Nodup :=
    List.pairwise_map.mpr (hsorted.imp Int.ne_of_lt)
  rw [Settings.ofOptions, htable]
  simp only [bind, Except.bind, PathClassifier.build, if_pos hnodup, haliases, Except.map]
  rfl

theorem Architecture.ofOptions_defaults :
    Settings.ofOptions schema.defaults = .ok defaultSettings :=
  ofOptions_of_sorted defaultSettings.classifier.layers [] rfl (by decide) rfl

theorem Architecture.fits_defaults : defaultSettings.Fits := by
  constructor <;> decide

theorem Repository.fits_defaults : (Settings.ofOptions schema.defaults).Fits := by
  constructor <;> decide

def Checker.Fits : Checker → Prop
  | openClosed o => o.Fits
  | segregation o => AreTexts o.excluded
  | inversion o => o.Fits
  | architecture o => o.Fits
  | repository o => o.Fits
  | responsibility _ | substitution _ | naming _ => True

theorem Checker.build_defaults (r : Rule) :
    ∃ c, build r r.schema.defaults = .ok c ∧ c.Fits := by
  cases r with
  | responsibility => exact ⟨_, rfl, trivial⟩
  | openClosed => exact ⟨_, rfl, OpenClosed.fits_defaults⟩
  | substitution => exact ⟨_, rfl, trivial⟩
  | segregation => exact ⟨_, rfl, show AreTexts _ by decide⟩
  | inversion =>
    exact ⟨_, congrArg (Except.map inversion) Inversion.ofOptions_defaults,
      Inversion.fits_defaults⟩
  | architecture =>
    exact ⟨_, congrArg (Except.map architecture) Architecture.ofOptions_defaults,
      Architecture.fits_defaults⟩
  | repository => exact ⟨_, rfl, Repository.fits_defaults⟩
  | naming => exact ⟨_, rfl, trivial⟩

theorem Detector.stopped_check {d : Detector} (fits : d.checker.Fits) (hr : d.rule ≠ .naming)
    (probe : String → Bool) (c : Context) : (d.check probe c).stopped = none := by
  obtain ⟨checker, severity⟩ := d
  cases checker with
  | responsibility o => exact Responsibility.stopped_check _ o c
  | openClosed o => exact OpenClosed.stopped_check _ fits c
  | substitution o => exact Substitution.stopped_check _ o c
  | segregation o => exact Segregation.stopped_check _ fits c
  | inversion o => exact Inversion.stopped_check _ fits probe c
  | architecture o => exact Architecture.stopped_check _ fits c
  | repository o => exact Repository.stopped_check _ fits c
  | naming o => exact absurd rfl hr

end DesignLint
