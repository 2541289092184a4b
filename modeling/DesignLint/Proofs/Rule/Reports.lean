import DesignLint.Proofs.Diagnostic.Findings
import DesignLint.Proofs.Gathering.Whereabouts
import DesignLint.Rule.Catalog

namespace DesignLint

namespace Template

@[simp] theorem keys_nil : keys [] = [] := rfl

@[simp] theorem keys_text (s : String) (t : Template) : keys (.text s :: t) = keys t := rfl

@[simp] theorem keys_slot (key : String) (t : Template) : keys (slot key :: t) = key :: keys t :=
  rfl

end Template

def Message.FilledBy (m : Message) (data : Fields) : Prop :=
  ∀ key ∈ m.template.keys, key ∈ Assoc.keys data

@[simp] theorem Message.filledBy_mk (id : String) (t : Template) (data : Fields) :
    FilledBy ⟨id, t⟩ data ↔ ∀ key ∈ t.keys, key ∈ data.map Prod.fst :=
  Iff.rfl

theorem Diagnostic.exists_text_of_filledBy {x : Diagnostic} (h : x.message.FilledBy x.data) :
    ∃ text, x.text? = some text := by
  refine Option.isSome_iff_exists.mp ((Template.render_isSome_iff _ _).mpr fun key hkey => ?_)
  exact Assoc.isSome_get?_iff.mpr (h key hkey)

open Site (PassesDown)

variable {P : Site → Prop} {r : Reporter} {s : Site} {d : Declaration} {c : Context}

namespace Reporter

def Reported (r : Reporter) (P : Site → Prop) (x : Diagnostic) : Prop :=
  ∃ m s data, x = r.diagnostic m s data ∧ P s ∧ m.FilledBy data

@[simp] theorem reported_report {m : Message} {data : Fields} (hs : P s) (hm : m.FilledBy data) :
    (r.report m s data).All (r.Reported P) :=
  fun _ hx => ⟨m, s, data, eq_of_mem_report hx, hs, hm⟩

theorem Reported.signs {x : Diagnostic} (h : r.Reported P x) : r.Signs x := by
  obtain ⟨m, s, data, rfl, -⟩ := h
  exact ⟨rfl, rfl, rfl⟩

theorem Reported.filledBy {x : Diagnostic} (h : r.Reported P x) : x.message.FilledBy x.data := by
  obtain ⟨m, s, data, rfl, -, hm⟩ := h
  exact hm

theorem Reported.span {root : SyntaxTree} {x : Diagnostic} (h : r.Reported (Site.LiesIn root) x) :
    ∃ n ∈ root.preorder, x.location = .ofSpan r.file n.first n.last := by
  obtain ⟨m, s, data, rfl, hs, -⟩ := h
  exact ⟨s.label, hs.label_mem, rfl⟩

end Reporter

namespace Responsibility

theorem reported_exceeds {m : Message} {name key : String} {measured : Nat} {limit : Int}
    (hs : P s) (hm : ∀ k ∈ m.template.keys, k ∈ ["name", key, "max"]) :
    (exceeds r m s name key measured limit).All (r.Reported P) :=
  Findings.all_when (Reporter.reported_report hs hm)

theorem reported_check (o : Limits) (hc : c.AllSites P) : (check r o c).All (r.Reported P) := by
  refine Findings.all_each_of_mem fun s hmem => ?_
  have hs := hc.sites _ s hmem
  split
  · rw [checkClass]
    split
    · simp
    · exact reported_exceeds hs (by simp [tooManyMethods])
  · refine Findings.all_append (Findings.all_append ?_ ?_) ?_
    · exact reported_exceeds hs (by simp [tooManyLines])
    · exact reported_exceeds hs (by simp [tooManyStatements])
    · exact reported_exceeds hs (by simp [tooComplex])

end Responsibility

namespace OpenClosed

variable (o : Settings)

theorem reported_checkSwitch (hs : P s) : (checkSwitch r o s).All (r.Reported P) := by
  rw [checkSwitch]
  split
  · simp
  · refine Findings.all_append (Findings.all_append ?_ ?_) ?_
    · simp [hs, tooManySwitchCases]
    · simp [hs, extensionViolation]
    · simp [hs, magicTypeValues]

theorem reported_checkBranch (hP : PassesDown P) (hs : P s) :
    (checkBranch r o s).All (r.Reported P) := by
  refine Findings.all_append (by simp [hs, longIfElseChain]) ?_
  split
  · simp
  · next test htest =>
    have hlinked := hP.link hs htest
    split
    · simp [hlinked, typeCheckViolation]
    · simp

theorem reported_checkSite (hP : PassesDown P) (hs : P s) :
    (checkSite r o s).All (r.Reported P) := by
  rw [checkSite]
  split
  · exact reported_checkSwitch o hs
  · exact reported_checkBranch o hP hs
  · exact Findings.all_each fun pattern => Findings.all_given fun found => by
      simp [hs, modificationRisk]
  · simp [checkAssignment, hs, directTypeManipulation]
  · rw [checkClass]
    split <;> simp [hs, hardcodedTypeHandling]

theorem reported_checkFunction (hs : P s) (p : Profile) :
    (checkFunction r o s p).All (r.Reported P) := by
  refine Findings.all_given fun mentioned => ?_
  split
  · simp
  · refine Findings.all_append ?_ (Findings.all_when (Findings.all_append ?_ ?_))
    · simp [hs, missingAbstraction]
    · simp [hs, lackOfPolymorphism]
    · simp [hs, conditionalComplexity]

theorem reported_check (hP : PassesDown P) (hc : c.AllSites P) :
    (check r o c).All (r.Reported P) := by
  refine Findings.all_given fun excluded => ?_
  split
  · simp
  · refine Findings.all_append (Findings.all_each_of_mem fun s hs => ?_)
      (Findings.all_each_of_mem fun s hs => ?_)
    · exact reported_checkSite o hP (hc.sites _ s hs)
    · split
      · exact reported_checkFunction o (hc.sites _ s hs) _
      · simp

end OpenClosed

theorem Substitution.reported_check (o : Settings) (hc : c.AllSites P) :
    (check r o c).All (r.Reported P) := by
  refine Findings.all_each_of_mem fun d hmem => ?_
  have hd := hc.declarations d (List.mem_of_mem_filter hmem)
  refine Findings.all_append (Findings.all_each_of_mem fun e he => ?_) ?_
  · obtain ⟨m, hm, hoverride⟩ := List.mem_filterMap.mp he
    have hsite : P e.1.site := by
      split at hoverride
      · cases hoverride
      · obtain ⟨b, -, rfl⟩ := Option.map_eq_some_iff.mp hoverride
        exact hd.methods m hm
    refine Findings.all_append (Findings.all_append ?_ ?_) ?_
    · simp [hsite, strongerPrecondition]
    · simp [hsite, weakerPostcondition]
    · simp [hsite, newExceptionType]
  · simp [hd.site, contractViolation]

theorem Segregation.reported_check (o : Settings) (hc : c.AllSites P) :
    (check r o c).All (r.Reported P) := by
  refine Findings.all_each_of_mem fun d hmem => Findings.all_given fun methods => ?_
  have hd := (hc.registry d (List.mem_mergeSort.mp hmem)).site
  refine Findings.all_append (Findings.all_append (Findings.all_append ?_ ?_) ?_) ?_
  · simp [hd, fatInterface]
  · simp [hd, unusedMethods]
  · simp [hd, segregationViolation]
  · simp [hd, mixedResponsibilities]

namespace Inversion

variable (o : Settings) (probe : String → Bool) {target : Site}

theorem reported_suggest (ht : P target) (path : String) (suggested : Value) :
    (suggest r target path suggested).All (r.Reported P) := by
  simp [suggest, ht, suggestAbstraction]

theorem reported_checkTypeImport (ht : P target) (path : String) :
    (checkTypeImport r o probe c target path).All (r.Reported P) := by
  refine Findings.all_given fun concrete => ?_
  split
  · simp
  · refine Findings.all_given fun abstract => ?_
    split
    · simp
    · refine Findings.all_given fun suggested => Findings.all_append ?_ ?_
      · simp [ht, typeScriptTypeImport]
      · cases suggested with
        | none => simp
        | some v => exact reported_suggest ht path v

theorem reported_checkSpecifier (hP : PassesDown P) (hs : P s) (specifier : Specifier) :
    (checkSpecifier r o s specifier).All (r.Reported P) := by
  rw [checkSpecifier]
  split
  · simp
  · refine Findings.all_given fun concrete => ?_
    simp [hP.getD_follow hs, concreteClassImport]

theorem reported_reportConcrete (ht : P target) (path : String)
    (suggested : Option Value) :
    (reportConcrete r o target path suggested).All (r.Reported P) := by
  refine Findings.all_append (by simp [ht, directConcreteDependency]) ?_
  cases suggested with
  | none => simp [ht, noAbstractionFound]
  | some v => exact reported_suggest ht path v

theorem reported_checkValueImport (hP : PassesDown P) (hs : P s) (ht : P target) (i : Import) :
    (checkValueImport r o probe c s target i).All (r.Reported P) := by
  have hclasses {wanted : Bool} :
      (Findings.when wanted (.each (checkSpecifier r o s) i.specifiers)).All (r.Reported P) :=
    Findings.all_when (Findings.all_each (reported_checkSpecifier o hP hs))
  refine Findings.all_given fun concrete => ?_
  split
  · exact hclasses
  · refine Findings.all_given fun abstract => ?_
    split
    · simp
    · refine Findings.all_given fun suggested => ?_
      exact Findings.all_append (reported_reportConcrete o ht i.module suggested) hclasses

theorem reported_check (hP : PassesDown P) (hc : c.AllSites P) :
    (check r o probe c).All (r.Reported P) := by
  refine Findings.all_given fun allowed => ?_
  split
  · simp
  · refine Findings.all_each_of_mem fun s hmem => ?_
    have hs := hc.sites _ s hmem
    have ht := hP.getD_link hs .source
    split
    · next i _ =>
      rw [checkImport]
      split
      · simp
      · split
        · exact reported_checkTypeImport o probe ht i.module
        · exact reported_checkValueImport o probe hP hs ht i
    · simp

end Inversion

namespace Architecture

variable (o : Settings) (from_ : Standpoint) {t : Target}

theorem reported_between {check : Layer → Layer → Target → Findings}
    (h : ∀ inner outer, (check inner outer t).All (r.Reported P)) :
    (between from_ t check).All (r.Reported P) := by
  rw [between]
  split
  · exact h _ _
  · simp

theorem reported_checkTarget (ht : P t.site) : (checkTarget r o from_ t).All (r.Reported P) := by
  refine Findings.all_append (Findings.all_append (Findings.all_append (Findings.all_append
    (Findings.all_append (Findings.all_append ?_ ?_) ?_) ?_) ?_) ?_) ?_
  · refine reported_between from_ fun inner outer => ?_
    simp [checkLayers, ht, dependencyRuleViolation]
  · rw [checkFramework]
    split
    · exact Findings.all_given fun found => by simp [ht, frameworkInBusinessLogic]
    · simp
  · refine reported_between from_ fun inner outer => ?_
    simp [checkEntity, ht, entityDependsOnUseCase]
  · refine reported_between from_ fun inner outer => ?_
    simp [checkSkip, ht, skipLayerViolation]
  · refine reported_between from_ fun inner outer => ?_
    rw [checkBoundary]
    split
    · exact Findings.all_given fun isPort => by simp [ht, missingInterface]
    · simp
  · rw [checkUserInterface]
    split
    · exact Findings.all_given fun found => by simp [ht, uiInBusinessLogic]
    · simp
  · rw [checkDatabase]
    split
    · exact Findings.all_given fun found => by simp [ht, directDatabaseInUseCase]
    · simp

theorem reported_checkImport (hP : PassesDown P) (hs : P s) (path : String) :
    (checkImport r o from_ s path).All (r.Reported P) := by
  have ht := hP.getD_link hs .source
  rw [checkImport]
  split
  · exact reported_checkTarget o from_ ht
  · refine Findings.all_given fun shared => ?_
    split
    · simp
    · exact Findings.all_given fun layer => reported_checkTarget o from_ ht

theorem reported_check (hP : PassesDown P) (hc : c.AllSites P) :
    (check r o c).All (r.Reported P) := by
  refine Findings.all_given fun isTest => ?_
  split
  · simp
  · refine Findings.all_given fun shared => ?_
    split
    · simp
    · refine Findings.all_given fun layer => Findings.all_given fun isBusiness =>
        Findings.all_each_of_mem fun s hs => ?_
      rw [checkSite]
      split
      · simp
      · split
        · simp
        · refine Findings.all_given fun shared => ?_
          split
          · simp
          · exact reported_checkImport o _ hP (hc.sites _ s hs) _

end Architecture

namespace Repository

variable (o : Settings)

theorem reported_checkPlace (hd : d.AllSites P) (directories : List Value) (kind layer : String) :
    (checkPlace r d directories kind layer).All (r.Reported P) := by
  refine Findings.all_given fun there => ?_
  simp [hd.site, wrongDirectory]

theorem reported_checkWidth (hd : d.AllSites P) (count : Nat) :
    (checkWidth r o d count).All (r.Reported P) := by
  simp [checkWidth, hd.site, tooManyMethods]

theorem reported_checkName {m : Method} (hm : P m.site) : (checkName r o m).All (r.Reported P) := by
  refine Findings.all_append (Findings.all_given fun found => ?_)
    (Findings.all_given fun found => ?_)
  · simp [hm, businessLogicMethod]
  · simp [hm, leakyAbstraction]

theorem reported_checkSignature {m : Method} (hm : P m.site) :
    (checkSignature r o m).All (r.Reported P) := by
  refine Findings.all_append (reported_checkName o hm) ?_
  split <;> simp [hm, returnsDataObject]

theorem reported_checkInterface (hd : d.AllSites P) :
    (checkInterface r o d).All (r.Reported P) := by
  refine Findings.all_append (Findings.all_append (Findings.all_append ?_ ?_) ?_) ?_
  · exact reported_checkPlace hd _ _ _
  · simp [hd.site, interfaceNaming]
  · exact reported_checkWidth o hd _
  · exact Findings.all_each_of_mem fun m hm =>
      reported_checkSignature o (hd.methods m (List.mem_of_mem_filter hm))

theorem reported_checkImplementation (hd : d.AllSites P) :
    (checkImplementation r o d).All (r.Reported P) := by
  refine Findings.all_append (Findings.all_append (Findings.all_append ?_ ?_) ?_) ?_
  · exact reported_checkPlace hd _ _ _
  · simp [hd.site, missingImplements]
  · exact reported_checkWidth o hd _
  · refine Findings.all_each_of_mem fun m hm => ?_
    have hsite := hd.methods m (List.mem_of_mem_filter hm)
    exact Findings.all_append (reported_checkName o hsite) (by simp [hsite, complexConditional])

theorem reported_checkImport (hP : PassesDown P) (hs : P s) :
    (checkImport r o s).All (r.Reported P) := by
  refine Findings.all_given fun found => ?_
  simp [hP.getD_link hs, domainImportsInfrastructure]

theorem reported_check (hP : PassesDown P) (hc : c.AllSites P) :
    (check r o c).All (r.Reported P) := by
  refine Findings.all_given fun inDomain => Findings.all_each_of_mem fun s hs => ?_
  split
  · exact Findings.all_when (reported_checkImport o hP (hc.sites _ s hs))
  · split
    · next d hd =>
      have hdeclared := hc.declarationAt hd
      rw [checkDeclaration]
      split
      · simp
      · split
        · exact reported_checkInterface o hdeclared
        · exact reported_checkImplementation o hdeclared
    · simp

end Repository

namespace Naming

theorem reported_complain {m : Message} {wanted fits : Bool} {name : String} (hs : P s)
    (hm : ∀ k ∈ m.template.keys, k ∈ ["name"]) :
    (complain r m wanted fits s name).All (r.Reported P) :=
  Findings.all_when (Reporter.reported_report hs hm)

theorem reported_check (o : Settings) (hP : PassesDown P) (hc : c.AllSites P) :
    (check r o c).All (r.Reported P) := by
  refine Findings.all_each_of_mem fun s hmem => ?_
  rw [checkSite]
  split
  · simp
  · next nameSite hname =>
    have hs := hP.link (hc.sites _ s hmem) hname
    split
    · simp
    · dsimp only
      split
      · rw [checkDeclarator]
        split
        · simp
        · split
          · exact reported_complain hs (by simp [constantCase])
          · split
            · exact reported_complain hs (by simp [variableCase])
            · simp
      · exact reported_complain hs (by simp [classCase])
      · exact Findings.all_when (reported_complain hs (by simp [functionCase]))

end Naming

namespace Detector

theorem reported_check (d : Detector) (probe : String → Bool) (hP : PassesDown P)
    (hc : c.AllSites P) :
    (d.check probe c).All (Reporter.Reported ⟨d.rule.id, d.severity, c.path⟩ P) := by
  rw [check]
  cases d.checker with
  | responsibility o => exact Responsibility.reported_check o hc
  | openClosed o => exact OpenClosed.reported_check o hP hc
  | substitution o => exact Substitution.reported_check o hc
  | segregation o => exact Segregation.reported_check o hc
  | inversion o => exact Inversion.reported_check o probe hP hc
  | architecture o => exact Architecture.reported_check o hP hc
  | repository o => exact Repository.reported_check o hP hc
  | naming o => exact Naming.reported_check o hP hc

theorem signs_check (d : Detector) (probe : String → Bool) (c : Context) :
    (d.check probe c).All (Reporter.Signs ⟨d.rule.id, d.severity, c.path⟩) := by
  have hany (d : Declaration) : d.AllSites fun _ => True := ⟨trivial, fun _ _ => trivial⟩
  have hc : c.AllSites fun _ => True :=
    ⟨fun _ _ _ => trivial, fun d _ => hany d, fun d _ => hany d, fun _ => hany _⟩
  intro x hx
  exact (d.reported_check probe (fun _ _ => trivial) hc x hx).signs

structure Accounts (d : Detector) (c : Context) (root : SyntaxTree) (x : Diagnostic) : Prop where
  keys : ∀ key ∈ x.message.template.keys, key ∈ Assoc.keys x.data
  text : ∃ text fields, x.text? = some text ∧ x.toFields? = some fields ∧
    Assoc.get? "message" fields = some (.text text)
  rule : x.rule = d.rule.id
  severity : x.severity = d.severity
  span : ∃ n ∈ root.preorder,
    x.location = ⟨c.path, n.first.line, n.first.column + 1, n.last.line, n.last.column + 1⟩

theorem check_accounts (d : Detector) (probe : String → Bool) (path : String) (limit : Int)
    (root : SyntaxTree) :
    ∀ x ∈ (d.check probe (.collect path limit root)).diagnostics,
      d.Accounts (.collect path limit root) root x := by
  intro x hx
  have hreported := d.reported_check probe (Site.passesDown_liesIn root)
    (Context.collect_liesIn path limit root) x hx
  obtain ⟨hrule, hseverity, -⟩ := hreported.signs
  refine ⟨hreported.filledBy, ?_, hrule, hseverity, hreported.span⟩
  obtain ⟨text, htext⟩ := Diagnostic.exists_text_of_filledBy hreported.filledBy
  refine ⟨text, _, htext, by rw [Diagnostic.toFields?, htext, Option.map_some], ?_⟩
  simp [Assoc.get?]

def lowercaseClass : SyntaxTree :=
  let name : Node :=
    { kind := .identifier, type := "identifier", start := 20, stop := 24, first := ⟨3, 6⟩,
      last := ⟨3, 10⟩, text := "cart", name := some "cart", operator := none, isStatement := false,
      links := [], detail := .plain }
  .node { name with
    kind := .classDecl, type := "class_declaration", start := 14, stop := 27, first := ⟨3, 0⟩,
    last := ⟨3, 13⟩, text := "class cart \x7b\x7d", isStatement := true,
    links := [(.name, [0])], detail := .classLike none [] false } [.node name []]

theorem check_accounts_in_lowercaseClass :
    let d : Detector := ⟨.naming ⟨true, true, true, true⟩, .error⟩
    let c : Context := .collect "src\\cart.js" 500 lowercaseClass
    ∃ x ∈ (d.check (fun _ => false) c).diagnostics,
      x.text? = some "Class 'cart' should be in PascalCase." ∧
        x.location = ⟨"src/cart.js", 3, 7, 3, 11⟩ ∧ d.Accounts c lowercaseClass x := by
  intro d c
  have hreports : (d.check (fun _ => false) c).diagnostics.map (fun x => (x.text?, x.location)) =
      [(some "Class 'cart' should be in PascalCase.", ⟨"src/cart.js", 3, 7, 3, 11⟩)] := by
    decide +kernel
  obtain ⟨x, after, hdiagnostics, hx, -⟩ := List.map_eq_cons_iff.mp hreports
  obtain ⟨htext, hlocation⟩ := Prod.mk.inj hx
  have hmem : x ∈ (d.check (fun _ => false) c).diagnostics := by simp [hdiagnostics]
  exact ⟨x, hmem, htext, hlocation, d.check_accounts _ _ _ _ x hmem⟩

end Detector

end DesignLint
