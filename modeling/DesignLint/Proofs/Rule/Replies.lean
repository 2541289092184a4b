import DesignLint.Proofs.Rule.ConcreteImports

namespace DesignLint

namespace Findings

variable {α : Type} {m : Message}

def without (m : Message) (f : Findings) : Findings :=
  { f with diagnostics := f.diagnostics.filter fun d => d.message.id ≠ m.id }

theorem without_eq_self {f : Findings} (h : ¬ f.Reports m) : f.without m = f := by
  have hfilter : f.diagnostics.filter (fun d => d.message.id ≠ m.id) = f.diagnostics := by
    refine List.filter_eq_self.mpr fun d hd => decide_eq_true fun hid => ?_
    exact h ⟨d, hd, hid⟩
  rw [without, hfilter]

theorem without_append (a b : Findings) : (a ++ b).without m = a.without m ++ b.without m := by
  obtain ⟨ds, s⟩ := a
  cases s with
  | some misfit => rfl
  | none => simp [without, append_def, andThen]

theorem without_when_report {r : Reporter} {condition : Bool} {s : Site} {data : Fields} :
    (when condition (r.report m s data)).without m = none := by
  cases condition <;> simp [when, without, Reporter.report, one, none]

theorem without_given (t : Trial α) (search : α → Findings) :
    (given t search).without m = given t fun a => (search a).without m := by
  cases t with
  | ok a => rfl
  | error misfit => rfl

theorem without_each (search : α → Findings) (items : List α) :
    (each search items).without m = each (fun a => (search a).without m) items := by
  induction items with
  | nil => rfl
  | cons a rest ih => rw [each, each, without_append, ih]

def Says (ms : List Message) (f : Findings) : Prop :=
  f.All fun d => d.message ∈ ms

theorem Says.not_reports {ms : List Message} {f : Findings} (h : f.Says ms)
    (hne : ∀ n ∈ ms, n.id ≠ m.id) : ¬ f.Reports m := by
  rintro ⟨d, hd, hid⟩
  exact hne d.message (h d hd) hid

theorem says_report {ms : List Message} {n : Message} (hn : n ∈ ms) (r : Reporter) (s : Site)
    (data : Fields) : (r.report n s data).Says ms := by
  intro d hd
  rw [Reporter.eq_of_mem_report hd]
  exact hn

end Findings

namespace Inversion

def IsReply (d : Diagnostic) : Prop :=
  d.message.id = suggestAbstraction.id ∨ d.message.id = noAbstractionFound.id

structure RepliesTo (d e : Diagnostic) : Prop where
  path : ∃ path, Assoc.get? "importPath" d.data = some (.text path) ∧
    Assoc.get? "importPath" e.data = some (.text path)
  location : d.location = e.location
  messages : (d.message.id = directConcreteDependency.id ∧ IsReply e) ∨
    (d.message.id = typeScriptTypeImport.id ∧ e.message.id = suggestAbstraction.id)

inductive Replied : List Diagnostic → Prop
  | nil : Replied []
  | alone {d : Diagnostic} {rest : List Diagnostic} (h : d.message.id ≠ directConcreteDependency.id)
      (hd : ¬ IsReply d) (hrest : Replied rest) : Replied (d :: rest)
  | pair {d e : Diagnostic} {rest : List Diagnostic} (h : RepliesTo d e) (hrest : Replied rest) :
      Replied (d :: e :: rest)

theorem IsReply.not_concrete {d : Diagnostic} (h : IsReply d) :
    d.message.id ≠ directConcreteDependency.id ∧ d.message.id ≠ typeScriptTypeImport.id := by
  rcases h with h | h
  · rw [h]
    decide
  · rw [h]
    decide

namespace RepliesTo

variable {d e : Diagnostic}

theorem isReply (h : RepliesTo d e) : IsReply e := by
  rcases h.messages with ⟨-, he⟩ | ⟨-, he⟩
  · exact he
  · exact .inl he

theorem not_isReply (h : RepliesTo d e) : ¬ IsReply d := by
  intro hd
  rcases h.messages with ⟨hconcrete, -⟩ | ⟨htyped, -⟩
  · exact hd.not_concrete.1 hconcrete
  · exact hd.not_concrete.2 htyped

end RepliesTo

namespace Replied

variable {α : Type}

theorem append {a b : List Diagnostic} (ha : Replied a) (hb : Replied b) : Replied (a ++ b) := by
  induction ha with
  | nil => exact hb
  | alone h hd _ ih => exact .alone h hd ih
  | pair h _ ih => exact .pair h ih

theorem andThen {a b : Findings} (ha : Replied a.diagnostics) (hb : Replied b.diagnostics) :
    Replied (a ++ b).diagnostics := by
  obtain ⟨ds, s⟩ := a
  cases s with
  | some misfit => exact ha
  | none => exact ha.append hb

theorem each {search : α → Findings} {items : List α}
    (h : ∀ a, Replied (search a).diagnostics) :
    Replied (Findings.each search items).diagnostics := by
  induction items with
  | nil => exact .nil
  | cons a rest ih => exact (h a).andThen ih

theorem of_messages {ms : List Message} {ds : List Diagnostic} (h : ∀ d ∈ ds, d.message ∈ ms)
    (hms : ∀ m ∈ ms, m.id ≠ directConcreteDependency.id ∧ m.id ≠ suggestAbstraction.id ∧
      m.id ≠ noAbstractionFound.id) : Replied ds := by
  induction ds with
  | nil => exact .nil
  | cons d rest ih =>
    obtain ⟨hconcrete, hreply⟩ := hms d.message (h d List.mem_cons_self)
    exact .alone hconcrete (not_or.mpr hreply) (ih fun e he => h e (List.mem_cons_of_mem d he))

-- Where a report stands in the list: alone, first of a pair or second of a pair.
theorem split {before after : List Diagnostic} {d : Diagnostic}
    (h : Replied (before ++ d :: after)) :
    (d.message.id = directConcreteDependency.id →
      ∃ e rest, after = e :: rest ∧ RepliesTo d e) ∧
    (IsReply d → ∃ first e, before = first ++ [e] ∧ RepliesTo e d) := by
  generalize hds : before ++ d :: after = ds at h
  induction h generalizing before with
  | nil => simp at hds
  | alone h hd hrest ih =>
    cases before with
    | nil =>
      obtain ⟨rfl, -⟩ := List.cons.inj hds
      exact ⟨fun hconcrete => absurd hconcrete h, fun hreply => absurd hreply hd⟩
    | cons x before =>
      obtain ⟨rfl, htail⟩ := List.cons.inj hds
      obtain ⟨hconcrete, hreply⟩ := ih htail
      refine ⟨hconcrete, fun hd => ?_⟩
      obtain ⟨first, e, rfl, he⟩ := hreply hd
      exact ⟨x :: first, e, rfl, he⟩
  | @pair x y rest h hrest ih =>
    match before, hds with
    | [], hds =>
      obtain ⟨rfl, rfl⟩ := List.cons.inj hds
      exact ⟨fun _ => ⟨y, rest, rfl, h⟩, fun hreply => absurd hreply h.not_isReply⟩
    | [z], hds =>
      simp only [List.cons_append, List.nil_append, List.cons.injEq] at hds
      obtain ⟨rfl, rfl, -⟩ := hds
      exact ⟨fun hconcrete => absurd hconcrete h.isReply.not_concrete.1, fun _ => ⟨[], z, rfl, h⟩⟩
    | z :: w :: before, hds =>
      simp only [List.cons_append, List.cons.injEq] at hds
      obtain ⟨rfl, rfl, htail⟩ := hds
      obtain ⟨hconcrete, hreply⟩ := ih htail
      refine ⟨hconcrete, fun hd => ?_⟩
      obtain ⟨first, e, rfl, he⟩ := hreply hd
      exact ⟨z :: w :: first, e, rfl, he⟩

theorem repliesTo_next {before after : List Diagnostic} {d e : Diagnostic}
    (h : Replied (before ++ d :: e :: after)) (he : IsReply e) : RepliesTo d e := by
  have happend : before ++ d :: e :: after = (before ++ [d]) ++ e :: after := by simp
  rw [happend] at h
  obtain ⟨first, x, hbefore, hx⟩ := h.split.2 he
  obtain rfl : d = x := List.singleton_inj.mp (List.append_inj' hbefore rfl).2
  exact hx

end Replied

theorem judged_induction {motive : Findings → Prop} {o : Settings} {probe : String → Bool}
    {path importer : String} {neutral : Findings} {found : Option Value → Findings}
    (hneutral : motive neutral) (hnone : motive .none) (hfound : ∀ s, motive (found s))
    (hstop : ∀ misfit, motive (.stop misfit)) :
    motive (judged o probe path importer neutral found) := by
  rcases judged_cases o probe path importer neutral found with
    h | ⟨-, -, h⟩ | ⟨suggested, h⟩ | ⟨misfit, h⟩
  · rw [h]
    exact hneutral
  · rw [h]
    exact hnone
  · rw [h]
    exact hfound suggested
  · rw [h]
    exact hstop misfit

variable {r : Reporter} {o : Settings} {probe : String → Bool} {c : Context} {s target : Site}
  {i : Import}

theorem says_classFindings (r : Reporter) (o : Settings) (s : Site) (i : Import) :
    (classFindings r o s i).Says [concreteClassImport] := by
  refine Findings.all_when (Findings.all_each fun sp => ?_)
  rw [checkSpecifier]
  split
  · exact Findings.all_none
  · refine Findings.all_given fun concrete => Findings.all_when ?_
    exact Findings.says_report (by simp) r _ _

theorem says_reportConcrete (path : String) (suggested : Option Value) :
    (reportConcrete r o target path suggested).Says
      [directConcreteDependency, suggestAbstraction, noAbstractionFound] := by
  refine Findings.all_append (Findings.says_report (by simp) r target _) ?_
  cases suggested with
  | some v => exact Findings.says_report (by simp) r target _
  | none => exact Findings.all_when (Findings.says_report (by simp) r target _)

theorem says_checkTypeImport (path : String) :
    (checkTypeImport r o probe c target path).Says [typeScriptTypeImport, suggestAbstraction] := by
  refine judged_induction (motive := fun f => f.Says _) Findings.all_none Findings.all_none ?_
    Findings.all_stop
  intro suggested
  refine Findings.all_append (Findings.says_report (by simp) r target _) ?_
  cases suggested with
  | some v => exact Findings.says_report (by simp) r target _
  | none => exact Findings.all_none

theorem not_reports_typeImport_checkValueImport :
    ¬ (checkValueImport r o probe c s target i).Reports typeScriptTypeImport := by
  have hclasses : ¬ (classFindings r o s i).Reports typeScriptTypeImport :=
    (says_classFindings r o s i).not_reports (by decide)
  rw [checkValueImport_eq_judged]
  refine not_reports_judged hclasses fun suggested => ?_
  rw [Findings.reports_append_iff_left hclasses]
  exact (says_reportConcrete i.module suggested).not_reports (by decide)

theorem replied_classFindings (r : Reporter) (o : Settings) (s : Site) (i : Import) :
    Replied (classFindings r o s i).diagnostics :=
  .of_messages (says_classFindings r o s i) (by decide)

theorem replied_reportConcrete (hstrict : o.strict = true) (path : String)
    (suggested : Option Value) :
    Replied (reportConcrete r o target path suggested).diagnostics := by
  cases suggested with
  | some v => exact .pair ⟨⟨path, rfl, rfl⟩, rfl, .inl ⟨rfl, .inl rfl⟩⟩ .nil
  | none =>
    rw [reportConcrete, hstrict]
    exact .pair ⟨⟨path, rfl, rfl⟩, rfl, .inl ⟨rfl, .inr rfl⟩⟩ .nil

theorem replied_checkTypeImport (path : String) :
    Replied (checkTypeImport r o probe c target path).diagnostics := by
  refine judged_induction (motive := fun f => Replied f.diagnostics) .nil .nil ?_ fun _ => .nil
  intro suggested
  cases suggested with
  | some v => exact .pair ⟨⟨path, rfl, rfl⟩, rfl, .inr ⟨rfl, rfl⟩⟩ .nil
  | none =>
    have hsays := Findings.says_report (List.mem_singleton_self typeScriptTypeImport) r target
      [("importPath", .text path)]
    exact .of_messages hsays (by decide)

theorem replied_checkValueImport (hstrict : o.strict = true) :
    Replied (checkValueImport r o probe c s target i).diagnostics := by
  rw [checkValueImport_eq_judged]
  have hclasses := replied_classFindings r o s i
  refine judged_induction (motive := fun f => Replied f.diagnostics) hclasses .nil ?_ fun _ => .nil
  intro suggested
  exact (replied_reportConcrete hstrict i.module suggested).andThen hclasses

theorem siteFindings_cases (r : Reporter) (o : Settings) (probe : String → Bool) (c : Context)
    (s : Site) :
    siteFindings r o probe c s = .none ∨ ∃ i target, s.code.import? = some i ∧
      (siteFindings r o probe c s = checkTypeImport r o probe c target i.module ∨
        siteFindings r o probe c s = checkValueImport r o probe c s target i) := by
  rw [siteFindings]
  cases s.code.import? with
  | none => exact .inl rfl
  | some i =>
    simp only [checkImport]
    split
    · exact .inl rfl
    · refine .inr ⟨i, (s.link .source).getD s, rfl, ?_⟩
      split
      · exact .inl rfl
      · exact .inr rfl

theorem replied_siteFindings (hstrict : o.strict = true) :
    Replied (siteFindings r o probe c s).diagnostics := by
  rcases siteFindings_cases r o probe c s with h | ⟨i, target, -, h | h⟩
  · rw [h]
    exact .nil
  · rw [h]
    exact replied_checkTypeImport i.module
  · rw [h]
    exact replied_checkValueImport hstrict

theorem check_eq_given (r : Reporter) (o : Settings) (probe : String → Bool) (c : Context) :
    check r o probe c = .given (PathClassifier.matches c.path o.allowedFiles) fun allowed =>
      if allowed then .none else .each (siteFindings r o probe c) (c.sites [.importDecl]) := rfl

theorem check_cases (r : Reporter) (o : Settings) (probe : String → Bool) (c : Context) :
    (check r o probe c).diagnostics = [] ∨
      check r o probe c = .each (siteFindings r o probe c) (c.sites [.importDecl]) := by
  rw [check_eq_given]
  cases PathClassifier.matches c.path o.allowedFiles with
  | error misfit => exact .inl rfl
  | ok allowed =>
    cases allowed with
    | true => exact .inl rfl
    | false => exact .inr rfl

theorem replied_check (hstrict : o.strict = true) : Replied (check r o probe c).diagnostics := by
  rcases check_cases r o probe c with h | h
  · rw [h]
    exact .nil
  · rw [h]
    exact .each fun s => replied_siteFindings hstrict

theorem without_judged (m : Message) (o : Settings) (probe : String → Bool) (path importer : String)
    (neutral : Findings) (found : Option Value → Findings) :
    (judged o probe path importer neutral found).without m =
      judged o probe path importer (neutral.without m) fun suggested =>
        (found suggested).without m := by
  rw [judged, judged, Findings.without_given]
  congr 1
  funext concrete
  cases concrete with
  | false => rfl
  | true =>
    refine (Findings.without_given _ _).trans ?_
    congr 1
    funext abstract
    cases abstract with
    | true => rfl
    | false => exact Findings.without_given _ _

theorem without_reportConcrete (path : String) (suggested : Option Value) :
    (reportConcrete r { o with strict := true } target path suggested).without noAbstractionFound =
      reportConcrete r { o with strict := false } target path suggested := by
  have hconcrete : ¬ (r.report directConcreteDependency target
      [("importPath", .text path)]).Reports noAbstractionFound := by
    rw [Reporter.reports_report]
    decide
  cases suggested with
  | some v =>
    have hsuggest : ¬ (suggest r target path v).Reports noAbstractionFound := by
      rw [suggest, Reporter.reports_report]
      decide
    simp only [reportConcrete]
    rw [Findings.without_append, Findings.without_eq_self hconcrete,
      Findings.without_eq_self hsuggest]
  | none =>
    simp only [reportConcrete]
    rw [Findings.without_append, Findings.without_eq_self hconcrete, Findings.without_when_report]
    rfl

theorem without_checkValueImport :
    (checkValueImport r { o with strict := true } probe c s target i).without noAbstractionFound =
      checkValueImport r { o with strict := false } probe c s target i := by
  have hclasses : (classFindings r { o with strict := true } s i).without noAbstractionFound =
      classFindings r { o with strict := false } s i :=
    Findings.without_eq_self ((says_classFindings r _ s i).not_reports (by decide))
  rw [checkValueImport_eq_judged, checkValueImport_eq_judged, without_judged]
  simp only [Findings.without_append, without_reportConcrete, hclasses]
  rfl

theorem without_siteFindings (r : Reporter) (o : Settings) (probe : String → Bool) (c : Context)
    (s : Site) :
    (siteFindings r { o with strict := true } probe c s).without noAbstractionFound =
      siteFindings r { o with strict := false } probe c s := by
  rw [siteFindings, siteFindings]
  cases s.code.import? with
  | none => rfl
  | some i =>
    simp only [checkImport]
    split
    · rfl
    · split
      · exact Findings.without_eq_self ((says_checkTypeImport i.module).not_reports (by decide))
      · exact without_checkValueImport

theorem without_check (r : Reporter) (o : Settings) (probe : String → Bool) (c : Context) :
    (check r { o with strict := true } probe c).without noAbstractionFound =
      check r { o with strict := false } probe c := by
  rw [check_eq_given, check_eq_given, Findings.without_given]
  congr 1
  funext allowed
  cases allowed with
  | true => rfl
  | false =>
    refine (Findings.without_each _ _).trans ?_
    simp only [without_siteFindings]
    rfl

theorem not_reports_both (r : Reporter) (o : Settings) (probe : String → Bool) (c : Context)
    (s : Site) :
    ¬ ((siteFindings r o probe c s).Reports directConcreteDependency ∧
      (siteFindings r o probe c s).Reports typeScriptTypeImport) := by
  rintro ⟨hconcrete, htyped⟩
  rcases siteFindings_cases r o probe c s with h | ⟨i, target, -, h | h⟩
  · rw [h] at hconcrete
    exact Findings.not_reports_none hconcrete
  · rw [h] at hconcrete
    exact (says_checkTypeImport i.module).not_reports (by decide) hconcrete
  · rw [h] at htyped
    exact not_reports_typeImport_checkValueImport htyped

theorem strict_adds_missing (o : Settings) (severity : Severity) (probe : String → Bool)
    (path : String) (limit : Int) (root : SyntaxTree) :
    let c := Context.collect path limit root
    let run (strict : Bool) := Detector.check ⟨.inversion { o with strict }, severity⟩ probe c
    let ofImport := siteFindings (reporter severity c) { o with strict := true } probe c
    (run true).diagnostics.filter (fun d => d.message.id ≠ noAbstractionFound.id) =
        (run false).diagnostics ∧
      (run true).stopped = (run false).stopped ∧
      (∀ before d after, (run true).diagnostics = before ++ d :: after →
        (d.message.id = directConcreteDependency.id →
          ∃ e rest, after = e :: rest ∧ RepliesTo d e) ∧
        (d.message.id = typeScriptTypeImport.id →
          ∀ e ∈ after.head?, IsReply e → RepliesTo d e) ∧
        (IsReply d →
          (∃ first e, before = first ++ [e] ∧ RepliesTo e d) ∧ ∀ e ∈ after.head?, ¬ IsReply e)) ∧
      ((run true).diagnostics = [] ∨ run true = .each ofImport (c.sites [.importDecl])) ∧
      ∀ s, ¬ ((ofImport s).Reports directConcreteDependency ∧
        (ofImport s).Reports typeScriptTypeImport) := by
  intro c run ofImport
  have hwithout : (run true).without noAbstractionFound = run false := without_check _ o probe c
  have hreplied : Replied (run true).diagnostics := replied_check rfl
  refine ⟨congrArg Findings.diagnostics hwithout, (congrArg Findings.stopped hwithout :), ?_,
    check_cases _ _ probe c, not_reports_both _ _ probe c⟩
  intro before d after hds
  rw [hds] at hreplied
  have hnext : ∀ e ∈ after.head?, IsReply e → RepliesTo d e := by
    intro e he hreply
    obtain ⟨rest, rfl⟩ := List.head?_eq_some_iff.mp he
    exact hreplied.repliesTo_next hreply
  refine ⟨hreplied.split.1, fun _ => hnext, fun hd => ⟨hreplied.split.2 hd, ?_⟩⟩
  intro e he hreply
  exact (hnext e he hreply).not_isReply hd

def threeImports : ParseTree :=
  let named (type : String) (field : Option String) (start stop : Nat) (cs : List ParseTree) :
      ParseTree := .node ⟨type, start, stop, true, field⟩ cs
  named "program" none 0 59 [
    named "import_statement" none 0 18 [named "string" (some "source") 7 17 []],
    named "import_statement" none 18 36 [named "string" (some "source") 25 35 []],
    named "import_statement" none 36 59 [
      .node ⟨"type", 43, 47, false, none⟩ [], named "string" (some "source") 48 58 []]]

def threeImportsFile : SyntaxTree :=
  .ofParse (Text.Utf8.encode "import \"./impl/a\";import \"./impl/b\";import type \"./impl/b\";")
    threeImports

theorem strict_adds_missing_in_threeImports :
    let run (strict : Bool) := Detector.check
      ⟨.inversion { defaultSettings with strict }, .warning⟩ (· == "src/interfaces/b.ts")
      (.collect "src/a.ts" 500 threeImportsFile)
    (run true).diagnostics.map (·.message.id) =
        ["directConcreteDependency", "noAbstractionFound", "directConcreteDependency",
         "suggestAbstraction", "typeScriptTypeImport", "suggestAbstraction"] ∧
      (run true).diagnostics.filter (fun d => d.message.id ≠ noAbstractionFound.id) =
        (run false).diagnostics ∧
      ∃ d e rest, (run true).diagnostics = d :: e :: rest ∧
        d.message.id = directConcreteDependency.id ∧ RepliesTo d e := by
  intro run
  have hids : (run true).diagnostics.map (·.message.id) =
      ["directConcreteDependency", "noAbstractionFound", "directConcreteDependency",
       "suggestAbstraction", "typeScriptTypeImport", "suggestAbstraction"] := by
    decide +kernel
  obtain ⟨hfilter, -, hplaces, -⟩ := strict_adds_missing defaultSettings .warning
    (· == "src/interfaces/b.ts") "src/a.ts" 500 threeImportsFile
  refine ⟨hids, hfilter, ?_⟩
  obtain ⟨d, after, hds, hd, -⟩ := List.map_eq_cons_iff.mp hids
  obtain ⟨e, rest, rfl, hreply⟩ := (hplaces [] d after hds).1 hd
  exact ⟨d, e, rest, hds, hd, hreply⟩

end Inversion

end DesignLint
