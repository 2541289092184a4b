import DesignLint.Proofs.Rule.Completion

namespace DesignLint

namespace ParseTree

theorem typeOnly_of_mem_specifiersIn {source : Source} {address : List Nat} {t : ParseTree}
    {sp : Specifier} (h : sp ∈ specifiersIn source true address t) : sp.typeOnly = true := by
  rw [specifiersIn] at h
  split at h
  · rw [List.mem_singleton.mp h]
  · split at h
    · obtain ⟨e, -, rfl⟩ := List.mem_map.mp h
      rfl
    · split at h
      · obtain ⟨⟨k, c⟩, -, hsp⟩ := List.mem_filterMap.mp h
        simp only [namedSpecifier?] at hsp
        split at hsp
        · obtain ⟨nameNode, -, rfl⟩ := Option.map_eq_some_iff.mp hsp
          rfl
        · cases hsp
      · cases h

theorem typeOnly_of_mem_specifiers {source : Source} {t : ParseTree} {sp : Specifier}
    (h : sp ∈ specifiers source t) (hkeyword : t.hasTypeKeyword = true) : sp.typeOnly = true := by
  obtain ⟨⟨k, clause⟩, -, h⟩ := List.mem_flatMap.mp h
  obtain ⟨⟨j, part⟩, -, h⟩ := List.mem_flatMap.mp h
  rw [hkeyword] at h
  exact typeOnly_of_mem_specifiersIn h

theorem importOf_of_detail {source : Source} {t : ParseTree} {target : Role → Option ParseTree}
    {i : Import} (h : detail source t target = .importing i) :
    i = importOf source t (target .source) := by
  rw [detail] at h
  split at h
  all_goals cases h
  rfl

-- A statement of types only marks all its specifiers, so beside a value the mark of a statement
-- comes from the other specifiers alone.
theorem typeOnly_importOf_eq_false_iff {source : Source} {t : ParseTree}
    {nameNode : Option ParseTree} {sp : Specifier}
    (hform : (importOf source t nameNode).form = .statement)
    (hsp : sp ∈ (importOf source t nameNode).specifiers) (hvalue : sp.typeOnly = false) :
    (importOf source t nameNode).typeOnly = false ↔
      ∀ other ∈ (importOf source t nameNode).specifiers, other.typeOnly = false := by
  rw [importOf] at hform hsp ⊢
  split
  · next hcall =>
    rw [if_pos hcall] at hform
    cases hform
  · next hcall =>
    rw [if_neg hcall] at hsp
    have hkeyword : t.hasTypeKeyword = false := by
      cases hk : t.hasTypeKeyword with
      | false => rfl
      | true =>
        have htyped := typeOnly_of_mem_specifiers hsp hk
        rw [hvalue] at htyped
        cases htyped
    simp [hkeyword]

end ParseTree

namespace Inversion

def ConcreteName (o : Settings) (name : String) : Prop :=
  (∃ suffix, .text suffix ∈ o.suffixes ∧ Text.endsWith name suffix = true) ∧
    ∀ head, .text head ∈ o.abstractHeads → Text.startsWith name head = false

theorem isConcreteName_eq_ok {o : Settings} {name : String} {concrete : Bool}
    (h : isConcreteName o name = .ok concrete) : concrete = true ↔ ConcreteName o name := by
  rw [isConcreteName] at h
  cases hends : Trial.any (fun v => v.asText.map (Text.endsWith name ·)) o.suffixes with
  | error m =>
    rw [hends] at h
    cases h
  | ok ends =>
    have hsuffix := Trial.any_asText_eq_ok hends
    cases ends with
    | false =>
      rw [hends] at h
      obtain rfl := Except.ok.inj h
      refine iff_of_false Bool.false_ne_true ?_
      rintro ⟨hany, -⟩
      exact Bool.false_ne_true (hsuffix.mpr hany)
    | true =>
      rw [hends] at h
      cases hstarts : Trial.any (fun v => v.asText.map (Text.startsWith name ·))
          o.abstractHeads with
      | error m =>
        simp only [hstarts] at h
        cases h
      | ok starts =>
        have hhead := Trial.any_asText_eq_ok hstarts
        simp only [hstarts] at h
        obtain rfl := Except.ok.inj h
        rw [ConcreteName, and_iff_right (hsuffix.mp rfl), Bool.not_eq_true', ← Bool.not_eq_true,
          hhead]
        simp

def classDiagnostic (r : Reporter) (s : Site) (sp : Specifier) : Diagnostic :=
  r.diagnostic concreteClassImport ((s.follow sp.address).getD s)
    [("className", .text (className sp))]

variable {r : Reporter} {o : Settings} {probe : String → Bool} {c : Context} {s target : Site}
  {i : Import} {sp : Specifier}

theorem classDiagnostic_mem_checkSpecifier (hstopped : (checkSpecifier r o s sp).stopped = none)
    (hbinding : sp.binding ≠ .namespace) (hname : ConcreteName o (className sp)) :
    classDiagnostic r s sp ∈ (checkSpecifier r o s sp).diagnostics := by
  rw [checkSpecifier, if_neg hbinding] at hstopped ⊢
  obtain ⟨concrete, hconcrete, -⟩ := Findings.exists_of_stopped_given hstopped
  obtain rfl := (isConcreteName_eq_ok hconcrete).mpr hname
  rw [hconcrete]
  exact List.mem_singleton_self _

-- What both kinds of imports have in common: a path is concrete or not, and if so abstract or not.
def judged (o : Settings) (probe : String → Bool) (path importer : String) (neutral : Findings)
    (found : Option Value → Findings) : Findings :=
  .given (isConcrete o path) fun concrete =>
    if !concrete then neutral
    else .given (isAbstract o path) fun abstract =>
      if abstract then .none
      else .given (suggestion o probe path importer) found

theorem judged_cases (o : Settings) (probe : String → Bool) (path importer : String)
    (neutral : Findings) (found : Option Value → Findings) :
    judged o probe path importer neutral found = neutral ∨
      (isConcrete o path = .ok true ∧ isAbstract o path = .ok true ∧
        judged o probe path importer neutral found = .none) ∨
      (∃ suggested, judged o probe path importer neutral found = found suggested) ∨
      ∃ m, judged o probe path importer neutral found = .stop m := by
  rw [judged]
  cases isConcrete o path with
  | error m => exact .inr (.inr (.inr ⟨m, rfl⟩))
  | ok concrete =>
    cases concrete with
    | false => exact .inl rfl
    | true =>
      cases isAbstract o path with
      | error m => exact .inr (.inr (.inr ⟨m, rfl⟩))
      | ok abstract =>
        cases abstract with
        | true => exact .inr (.inl ⟨rfl, rfl, rfl⟩)
        | false =>
          cases suggestion o probe path importer with
          | error m => exact .inr (.inr (.inr ⟨m, rfl⟩))
          | ok suggested => exact .inr (.inr (.inl ⟨suggested, rfl⟩))

theorem not_reports_judged {path importer : String} {neutral : Findings}
    {found : Option Value → Findings} {m : Message} (hneutral : ¬ neutral.Reports m)
    (hfound : ∀ suggested, ¬ (found suggested).Reports m) :
    ¬ (judged o probe path importer neutral found).Reports m := by
  rcases judged_cases o probe path importer neutral found with
    h | ⟨-, -, h⟩ | ⟨suggested, h⟩ | ⟨misfit, h⟩
  · rw [h]
    exact hneutral
  · rw [h]
    exact Findings.not_reports_none
  · rw [h]
    exact hfound suggested
  · rw [h]
    exact Findings.not_reports_stop misfit m

theorem not_reports_suggest (path : String) (v : Value) :
    ¬ (suggest r target path v).Reports concreteClassImport := by
  simp [suggest, suggestAbstraction, concreteClassImport]

theorem not_reports_reportConcrete (path : String) (suggested : Option Value) :
    ¬ (reportConcrete r o target path suggested).Reports concreteClassImport := by
  cases suggested with
  | none =>
    have hmissing : ¬ (Findings.when o.strict (r.report noAbstractionFound target
        [("importPath", .text path)])).Reports concreteClassImport := by
      simp [noAbstractionFound, concreteClassImport]
    simp only [reportConcrete, Findings.reports_append_iff_left hmissing, Reporter.reports_report]
    decide
  | some v =>
    simp only [reportConcrete, Findings.reports_append_iff_left (not_reports_suggest path v),
      Reporter.reports_report]
    decide

theorem not_reports_checkTypeImport (path : String) :
    ¬ (checkTypeImport r o probe c target path).Reports concreteClassImport := by
  refine not_reports_judged Findings.not_reports_none fun suggested => ?_
  cases suggested with
  | none =>
    simp only [Findings.append_none, Reporter.reports_report]
    decide
  | some v =>
    simp only [Findings.reports_append_iff_left (not_reports_suggest path v),
      Reporter.reports_report]
    decide

def classFindings (r : Reporter) (o : Settings) (s : Site) (i : Import) : Findings :=
  .when (i.form = .statement && !i.typeOnly) (.each (checkSpecifier r o s) i.specifiers)

theorem checkValueImport_eq_judged (r : Reporter) (o : Settings) (probe : String → Bool)
    (c : Context) (s target : Site) (i : Import) :
    checkValueImport r o probe c s target i =
      judged o probe i.module c.path (classFindings r o s i) fun suggested =>
        reportConcrete r o target i.module suggested ++ classFindings r o s i := rfl

theorem not_reports_checkValueImport (h : i.typeOnly = true) :
    ¬ (checkValueImport r o probe c s target i).Reports concreteClassImport := by
  have hclasses : classFindings r o s i = .none := by simp [classFindings, h, Findings.when]
  rw [checkValueImport_eq_judged, hclasses]
  refine not_reports_judged Findings.not_reports_none fun suggested => ?_
  rw [Findings.append_none]
  exact not_reports_reportConcrete i.module suggested

theorem classFindings_subset (hstopped : (checkValueImport r o probe c s target i).stopped = none)
    (hsides : ¬ (isConcrete o i.module = .ok true ∧ isAbstract o i.module = .ok true)) :
    (classFindings r o s i).stopped = none ∧
      (classFindings r o s i).diagnostics ⊆
        (checkValueImport r o probe c s target i).diagnostics := by
  rw [checkValueImport_eq_judged] at hstopped ⊢
  rcases judged_cases o probe i.module c.path (classFindings r o s i) _ with
    h | ⟨hconcrete, habstract, -⟩ | ⟨suggested, h⟩ | ⟨misfit, h⟩
  · rw [h] at hstopped ⊢
    exact ⟨hstopped, List.Subset.refl _⟩
  · exact absurd ⟨hconcrete, habstract⟩ hsides
  · rw [h] at hstopped ⊢
    obtain ⟨hreport, hclasses⟩ := Findings.stopped_append_eq_none_iff.mp hstopped
    rw [Findings.diagnostics_append hreport]
    exact ⟨hclasses, List.subset_append_right _ _⟩
  · rw [h] at hstopped
    cases hstopped

def siteFindings (r : Reporter) (o : Settings) (probe : String → Bool) (c : Context) (s : Site) :
    Findings :=
  match s.code.import? with
  | some i => checkImport r o probe c s i
  | none => .none

structure Concerns (o : Settings) (c : Context) (s : Site) (i : Import) : Prop where
  file : PathClassifier.matches c.path o.allowedFiles = .ok false
  listed : s ∈ c.sites [.importDecl]
  code : s.code.import? = some i
  statement : i.form = .statement
  named : i.module ≠ ""
  internal : (o.skipExternal && o.classifier.isExternal i.module) = false
  sides : ¬ (isConcrete o i.module = .ok true ∧ isAbstract o i.module = .ok true)

structure ImportsConcrete (o : Settings) (i : Import) (sp : Specifier) : Prop where
  listed : sp ∈ i.specifiers
  value : sp.typeOnly = false
  binding : sp.binding = .default ∨ sp.binding = .named
  name : ConcreteName o (className sp)

theorem siteFindings_of_concerns (h : Concerns o c s i) :
    siteFindings r o probe c s =
      if i.typeOnly && c.isTypeScript && o.checkTypes then
        checkTypeImport r o probe c ((s.link .source).getD s) i.module
      else checkValueImport r o probe c s ((s.link .source).getD s) i := by
  have hskip : (i.module = "" || (o.skipExternal && o.classifier.isExternal i.module)) = false := by
    simp [h.named, h.internal]
  simp [siteFindings, h.code, checkImport, hskip, h.statement]

theorem classDiagnostic_mem_iff (h : Concerns o c s i) (hsp : ImportsConcrete o i sp)
    (hstopped : (siteFindings r o probe c s).stopped = none) :
    classDiagnostic r s sp ∈ (siteFindings r o probe c s).diagnostics ↔ i.typeOnly = false := by
  rw [siteFindings_of_concerns h] at hstopped ⊢
  constructor
  · intro hmem
    by_contra htyped
    rw [Bool.not_eq_false] at htyped
    split at hmem
    · exact not_reports_checkTypeImport i.module ⟨_, hmem, rfl⟩
    · exact not_reports_checkValueImport htyped ⟨_, hmem, rfl⟩
  · intro hvalue
    rw [if_neg (by simp [hvalue])] at hstopped ⊢
    obtain ⟨hclasses, hsubset⟩ := classFindings_subset hstopped h.sides
    have heach : classFindings r o s i = .each (checkSpecifier r o s) i.specifiers := by
      simp [classFindings, h.statement, hvalue, Findings.when]
    rw [heach] at hclasses hsubset
    have hspecifiers := Findings.stopped_each_eq_none_iff.mp hclasses
    have hbinding : sp.binding ≠ .namespace := by
      rcases hsp.binding with hb | hb <;> simp [hb]
    have hmem := classDiagnostic_mem_checkSpecifier (hspecifiers sp hsp.listed) hbinding hsp.name
    apply hsubset
    rw [Findings.diagnostics_each hspecifiers]
    exact List.mem_flatMap.mpr ⟨sp, hsp.listed, hmem⟩

theorem check_eq_each (h : PathClassifier.matches c.path o.allowedFiles = .ok false) :
    check r o probe c = .each (siteFindings r o probe c) (c.sites [.importDecl]) := by
  rw [check, h]
  rfl

theorem exists_importOf {path : String} {limit : Int} {source : Source} {t : ParseTree}
    (hs : s ∈ (Context.collect path limit (.ofParse source t)).sites [.importDecl])
    (hi : s.code.import? = some i) :
    ∃ u nameNode, i = ParseTree.importOf source u nameNode := by
  rw [Context.sites_collect_single] at hs
  have hlabel := Tree.label_mem_of_visited (List.mem_filter.mp hs).1
  obtain ⟨u, hu⟩ := Outline.exists_nodeOf_of_mem hlabel
  have hdetail : s.label.detail = .importing i := by
    rw [SyntaxTree.import?] at hi
    split at hi
    · next j hj =>
      obtain rfl := Option.some.inj hi
      exact hj
    · cases hi
  rw [hu] at hdetail
  change ParseTree.detail source u (fun role => (u.links.lookup role).map Prod.snd) =
    .importing i at hdetail
  exact ⟨u, _, ParseTree.importOf_of_detail hdetail⟩

abbrev reporter (severity : Severity) (c : Context) : Reporter :=
  ⟨Rule.inversion.id, severity, c.path⟩

theorem concreteClass_reported_iff (o : Settings) (severity : Severity) (probe : String → Bool)
    (path : String) (limit : Int) (source : Source) (t : ParseTree) :
    let c := Context.collect path limit (.ofParse source t)
    let found := Detector.check ⟨.inversion o, severity⟩ probe c
    (o.Fits → found.stopped = none) ∧
    (found.stopped = none → ∀ s i, Concerns o c s i →
      found.diagnostics = (c.sites [.importDecl]).flatMap (fun s =>
        (siteFindings (reporter severity c) o probe c s).diagnostics) ∧
      ∀ sp, ImportsConcrete o i sp →
        (classDiagnostic (reporter severity c) s sp ∈
            (siteFindings (reporter severity c) o probe c s).diagnostics ↔
          ∀ other ∈ i.specifiers, other.typeOnly = false)) := by
  intro c found
  refine ⟨fun fits => stopped_check _ fits probe c, fun hstopped s i h => ?_⟩
  have heach : found =
      .each (siteFindings (reporter severity c) o probe c) (c.sites [.importDecl]) :=
    check_eq_each h.file
  rw [heach] at hstopped ⊢
  have hsites := Findings.stopped_each_eq_none_iff.mp hstopped
  refine ⟨Findings.diagnostics_each hsites, fun sp hsp => ?_⟩
  rw [classDiagnostic_mem_iff h hsp (hsites s h.listed)]
  obtain ⟨u, nameNode, rfl⟩ := exists_importOf h.listed h.code
  exact ParseTree.typeOnly_importOf_eq_false_iff h.statement hsp.listed hsp.value

def ordersSource (first : String) : Source :=
  Text.Utf8.encode ("import \x7b " ++ first ++ ", OrderService \x7d from './orders';")

def ordersTree (length : Nat) (first : List ParseTree) : ParseTree :=
  let named (type : String) (field : Option String) (start stop : Nat) (cs : List ParseTree) :
      ParseTree := .node ⟨type, start, stop, true, field⟩ cs
  let token (type : String) (start stop : Nat) : ParseTree :=
    .node ⟨type, start, stop, false, none⟩ []
  let next := 11 + length
  named "program" none 0 (next + 31) [
    named "import_statement" none 0 (next + 31) [
      token "import" 0 6,
      named "import_clause" none 7 (next + 14) [
        named "named_imports" none 7 (next + 14) [
          token "\x7b" 7 8,
          named "import_specifier" none 9 (9 + length) first,
          token "," (9 + length) (10 + length),
          named "import_specifier" none next (next + 12) [
            named "identifier" (some "name") next (next + 12) []],
          token "\x7d" (next + 13) (next + 14)]],
      token "from" (next + 15) (next + 19),
      named "string" (some "source") (next + 20) (next + 30) [
        token "'" (next + 20) (next + 21),
        named "string_fragment" none (next + 21) (next + 29) [],
        token "'" (next + 29) (next + 30)],
      token ";" (next + 30) (next + 31)]]

abbrev valuesFile : Context :=
  Context.collect "src/app/main.ts" 500 (.ofParse (ordersSource "Order")
    (ordersTree 5 [.node ⟨"identifier", 9, 14, true, some "name"⟩ []]))

abbrev mixedFile : Context :=
  Context.collect "src/app/main.ts" 500 (.ofParse (ordersSource "type Order")
    (ordersTree 10 [.node ⟨"type", 9, 13, false, none⟩ [],
      .node ⟨"identifier", 14, 19, true, some "name"⟩ []]))

def importsOrderService (s : Site) : Bool :=
  s.code.import?.any fun i => i.form = .statement && i.module = "./orders" &&
    i.specifiers.any fun sp =>
      !sp.typeOnly && sp.binding = .named && className sp = "OrderService"

theorem exists_concerns {c : Context} (hpath : c.path = "src/app/main.ts")
    (h : (c.sites [.importDecl]).any importsOrderService = true) :
    ∃ s i sp, Concerns defaultSettings c s i ∧ ImportsConcrete defaultSettings i sp ∧
      className sp = "OrderService" := by
  obtain ⟨s, hs, h⟩ := List.any_eq_true.mp h
  obtain ⟨i, hi, h⟩ := (Option.any_eq_true _ _).mp h
  simp only [Bool.and_eq_true, decide_eq_true_eq, List.any_eq_true, Bool.not_eq_true'] at h
  obtain ⟨⟨hform, hmodule⟩, sp, hsp, ⟨hvalue, hbinding⟩, hname⟩ := h
  have hconcrete : isConcrete defaultSettings "./orders" = .ok false := by decide +kernel
  have hordered : isConcreteName defaultSettings "OrderService" = .ok true := by decide +kernel
  refine ⟨s, i, sp, ?_, ⟨hsp, hvalue, .inr hbinding, ?_⟩, hname⟩
  · exact {
      file := by
        rw [hpath]
        decide +kernel
      listed := hs
      code := hi
      statement := hform
      named := by simp [hmodule]
      internal := by
        rw [hmodule]
        decide +kernel
      sides := by
        rw [hmodule, hconcrete]
        simp }
  · rw [hname]
    exact (isConcreteName_eq_ok hordered).mp rfl

theorem concreteClass_reported_beside_values :
    ∃ s i sp, Concerns defaultSettings valuesFile s i ∧ ImportsConcrete defaultSettings i sp ∧
      className sp = "OrderService" ∧
      classDiagnostic (reporter .warning valuesFile) s sp ∈
        (Detector.check ⟨.inversion defaultSettings, .warning⟩ (fun _ => false)
          valuesFile).diagnostics := by
  obtain ⟨s, i, sp, h, hsp, hname⟩ := exists_concerns (c := valuesFile) rfl (by decide +kernel)
  have hall : (valuesFile.sites [.importDecl]).all (fun s =>
      s.code.import?.all fun i => i.specifiers.all fun sp => !sp.typeOnly) = true := by
    decide +kernel
  have hvalues : ∀ other ∈ i.specifiers, other.typeOnly = false := by
    have hs := List.all_eq_true.mp hall s h.listed
    rw [h.code] at hs
    simpa using hs
  obtain ⟨hfits, hreported⟩ := concreteClass_reported_iff defaultSettings .warning (fun _ => false)
    "src/app/main.ts" 500 (ordersSource "Order")
    (ordersTree 5 [.node ⟨"identifier", 9, 14, true, some "name"⟩ []])
  obtain ⟨hdiagnostics, hspecifiers⟩ := hreported (hfits fits_defaults) s i h
  refine ⟨s, i, sp, h, hsp, hname, ?_⟩
  rw [hdiagnostics]
  exact List.mem_flatMap.mpr ⟨s, h.listed, (hspecifiers sp hsp).mpr hvalues⟩

theorem concreteClass_unreported_beside_type :
    Settings.ofOptions schema.defaults = .ok defaultSettings ∧
    (∃ s i sp, Concerns defaultSettings mixedFile s i ∧ ImportsConcrete defaultSettings i sp) ∧
    (Detector.check ⟨.inversion defaultSettings, .warning⟩ (fun _ => false)
      mixedFile).diagnostics = [] := by
  obtain ⟨s, i, sp, h, hsp, -⟩ := exists_concerns (c := mixedFile) rfl (by decide +kernel)
  exact ⟨ofOptions_defaults, ⟨s, i, sp, h, hsp⟩, List.isEmpty_iff.mp (by decide +kernel)⟩

end Inversion

end DesignLint
