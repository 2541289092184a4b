import DesignLint.Proofs.Rule.Completion
import DesignLint.Proofs.Rule.UnusedMethods

namespace DesignLint

namespace Gathering

variable {limit : Int} {file : String} {sites : List Site}

theorem sites_registrationsFrom_sublist (objects : Nat) :
    ((registrationsFrom limit file objects sites).map (·.site)).Sublist sites := by
  induction sites generalizing objects with
  | nil => exact List.Sublist.refl []
  | cons s rest ih =>
    rw [registrationsFrom, List.map_append]
    cases hr : registration? limit file objects s with
    | none => exact (ih _).cons s
    | some d =>
      have hsite : d.site = s := by
        rcases registration?_eq_some hr with ⟨-, rfl⟩ | ⟨-, n, rfl⟩
        · rfl
        · rfl
      simpa [hsite] using ih _

theorem ofClass_mem_registrations {s : Site} (hs : s ∈ sites) (hc : s.isClassLike = true) :
    Declaration.ofClass limit file s ∈ registrations limit file sites := by
  have hmem : Declaration.ofClass limit file s ∈ classDeclarations limit file sites :=
    List.mem_map_of_mem (List.mem_filter.mpr ⟨hs, hc⟩)
  rw [← filter_registrations] at hmem
  exact (List.mem_filter.mp hmem).1

theorem find?_reverse_eq_some_iff {α : Type} {p : α → Bool} {l : List α} {a : α} (hn : l.Nodup)
    (ha : a ∈ l) (hp : p a = true) :
    l.reverse.find? p = some a ↔
      ∀ before after, l = before ++ a :: after → ∀ b ∈ after, p b = false := by
  constructor
  · rintro hlast before after rfl b hb
    have ha : a ∉ after := (List.nodup_cons.mp hn.of_append_right).1
    rw [List.reverse_append, List.reverse_cons, List.append_assoc, List.find?_append] at hlast
    -- what is found in the part behind would be found first
    cases hfound : after.reverse.find? p with
    | none => simpa using List.find?_eq_none.mp hfound b (List.mem_reverse.mpr hb)
    | some e =>
      rw [hfound, Option.some_or] at hlast
      obtain rfl := Option.some.inj hlast
      exact absurd (List.mem_reverse.mp (List.mem_of_find?_eq_some hfound)) ha
  · intro h
    obtain ⟨before, after, rfl⟩ := List.append_of_mem ha
    refine List.find?_eq_some_iff_append.mpr ⟨hp, after.reverse, before.reverse, by simp, ?_⟩
    intro b hb
    simp [h before after rfl b (List.mem_reverse.mp hb)]

end Gathering

namespace Context

open Gathering

def Superseded (limit : Int) (visited : List Site) (c : Context) (s : Site) : Prop :=
  ∃ before after, registrations limit c.path visited =
      before ++ Declaration.ofClass limit c.path s :: after ∧
    ∃ later ∈ after, later.name = (Declaration.ofClass limit c.path s).name

variable {path : String} {limit : Int} {root : SyntaxTree} {s : Site}

theorem nodup_registered (path : String) (limit : Int) (root : SyntaxTree) :
    (registered path limit root).Nodup := by
  have hsub : ((registered path limit root).map (·.site)).Sublist (root.visited limit) :=
    sites_registrationsFrom_sublist 0
  have haddresses : ((registered path limit root).map (·.site.address)).Nodup := by
    have h := (hsub.map Spot.address).nodup (Tree.nodup_address_visited limit root)
    rwa [List.map_map] at h
  exact haddresses.of_map

theorem find?_registered_eq_some_iff (hs : s ∈ root.visited limit) (hc : s.isClassLike = true) :
    (registered path limit root).reverse.find?
        (fun d => d.name = (Declaration.ofClass limit (slashed path) s).name) =
          some (Declaration.ofClass limit (slashed path) s) ↔
      ¬ Superseded limit (root.visited limit) (collect path limit root) s := by
  have hmem : Declaration.ofClass limit (slashed path) s ∈ registered path limit root :=
    ofClass_mem_registrations hs hc
  rw [find?_reverse_eq_some_iff (nodup_registered path limit root) hmem (by simp), Superseded]
  simp only [not_exists, not_and, decide_eq_false_iff_not]
  rfl

def isLastOfName (path : String) (limit : Int) (root : SyntaxTree) (s : Site) : Bool :=
  ((registered path limit root).reverse.find? fun d =>
    d.name = (Declaration.ofClass limit (slashed path) s).name).any fun d =>
      d.site.address = s.address

theorem isLastOfName_iff (hs : s ∈ root.visited limit) (hc : s.isClassLike = true) :
    isLastOfName path limit root s = true ↔
      ¬ Superseded limit (root.visited limit) (collect path limit root) s := by
  rw [← find?_registered_eq_some_iff hs hc, isLastOfName, Option.any_eq_true]
  constructor
  · rintro ⟨e, he, ha⟩
    rw [he, eq_ofClass_of_site (mem_registered_of_find? he) hs hc (of_decide_eq_true ha)]
  · intro h
    exact ⟨_, h, by simp [Declaration.ofClass]⟩

theorem current_eq_counted {e : Declaration}
    (h : (registered path limit root).reverse.find? (fun d => d.name = e.name) = some e) :
    (collect path limit root).current e = Registry.counted (uses limit root) e := by
  have hget := get?_registry path limit root e.name
  rw [h, Option.map_some] at hget
  simp [current, hget, (Registry.facts_counted (uses limit root) e).2.1]

theorem mem_registry_at_iff (hs : s ∈ root.visited limit) (hc : s.isClassLike = true)
    (d : Declaration) :
    d ∈ (collect path limit root).registry.declarations ∧ d.site.address = s.address ↔
      ¬ Superseded limit (root.visited limit) (collect path limit root) s ∧
        d = (collect path limit root).current (Declaration.ofClass limit (slashed path) s) := by
  rw [← find?_registered_eq_some_iff hs hc]
  constructor
  · rintro ⟨hd, ha⟩
    obtain ⟨e, hlast, rfl⟩ := last_of_mem_registry hd
    rw [(Registry.facts_counted (uses limit root) e).2.1] at ha
    obtain rfl := eq_ofClass_of_site (mem_registered_of_find? hlast) hs hc ha
    exact ⟨hlast, (current_eq_counted hlast).symm⟩
  · rintro ⟨hlast, rfl⟩
    have hget := get?_registry path limit root (Declaration.ofClass limit (slashed path) s).name
    rw [hlast, Option.map_some] at hget
    rw [current_eq_counted hlast, (Registry.facts_counted (uses limit root) _).2.1]
    exact ⟨(mem_registry_of_get? hget).1, rfl⟩

theorem nodup_registry (path : String) (limit : Int) (root : SyntaxTree) :
    (collect path limit root).registry.declarations.Nodup := by
  have hnames : ((collect path limit root).registry.declarations.map (·.name)).Nodup := by
    rw [names_registry, ← Assoc.keys_putAll]
    exact Assoc.nodup_keys_putAll _ _
  exact hnames.of_map

theorem site_mem_visited {d : Declaration}
    (h : d ∈ (collect path limit root).registry.declarations) : d.site ∈ root.visited limit := by
  obtain ⟨e, hlast, rfl⟩ := last_of_mem_registry h
  rw [(Registry.facts_counted (uses limit root) e).2.1]
  exact (mem_registrations (mem_registered_of_find? hlast)).1

end Context

namespace Segregation

def isCounted (o : Settings) (m : Method) : Bool :=
  o.excluded.all fun v => !v.asText?.any fun word => Text.within word m.name

def width (o : Settings) (d : Declaration) : Nat :=
  d.methods.countP (isCounted o)

def wide (o : Settings) (c : Context) : List Declaration :=
  (c.registry.declarations.mergeSort
    fun a b => decide (a.site.label.start ≤ b.site.label.start)).filter
      fun d => o.maxMethods < Int.ofNat (width o d)

def fatDiagnostic (r : Reporter) (o : Settings) (d : Declaration) : Diagnostic :=
  r.diagnostic fatInterface d.site
    [("kind", .text d.kindLabel), ("name", .text d.name), ("count", .int (Int.ofNat (width o d)))]

variable {r : Reporter} {o : Settings} {c : Context} {d : Declaration}

theorem isCounted_iff_relevant (ho : o.ignoreInherited = false) (m : Method) :
    isCounted o m = true ↔ Relevant o c d m.name := by
  simp only [isCounted, Relevant, ho, List.all_eq_true, Bool.false_eq_true, false_and,
    not_false_eq_true, and_true]
  constructor
  · intro h word hword
    simpa [Value.asText?] using h _ hword
  · intro h v hv
    cases hw : v.asText? with
    | none => rfl
    | some word => simp [h word (Value.asText?_eq_some.mp hw ▸ hv)]

theorem length_relevant (ho : o.ignoreInherited = false) {ms kept : List Method}
    (h : relevant o c d ms = .ok kept) : kept.length = ms.countP (isCounted o) := by
  induction ms generalizing kept with
  | nil =>
    obtain rfl := Except.ok.inj h
    rfl
  | cons m rest ih =>
    obtain ⟨others, hrest, ⟨hm, rfl⟩ | ⟨hm, rfl⟩⟩ := relevant_cons_eq_ok h
    · rw [← isCounted_iff_relevant ho] at hm
      rw [List.length_cons, ih hrest, List.countP_cons_of_pos hm]
    · rw [← isCounted_iff_relevant ho] at hm
      rw [ih hrest, List.countP_cons_of_neg hm]

theorem about_checkMethods (ms : List Method) :
    (checkMethods r o d ms).about fatInterface =
      if o.maxMethods < Int.ofNat ms.length then
        [r.diagnostic fatInterface d.site [("kind", .text d.kindLabel), ("name", .text d.name),
          ("count", .int (Int.ofNat ms.length))]]
      else [] := by
  have other (condition : Bool) (m : Message) (data : Fields) (h : fatInterface.id ≠ m.id) :
      (Findings.when condition (r.report m d.site data)).about fatInterface = [] := by
    rw [Findings.about_when, Reporter.about_report, if_neg h, ite_self]
  rw [checkMethods, Findings.about_append (by simp), Findings.about_append (by simp),
    Findings.about_append (by simp), other _ unusedMethods _ (by decide),
    other _ segregationViolation _ (by decide), other _ mixedResponsibilities _ (by decide)]
  simp [Reporter.about_report]

theorem about_check (ho : o.ignoreInherited = false) (h : (check r o c).stopped = none) :
    (check r o c).about fatInterface = (wide o c).map (fatDiagnostic r o) := by
  have hstopped := Findings.stopped_each_eq_none_iff.mp h
  refine Findings.about_each_eq_map hstopped fun d hd => ?_
  obtain ⟨ms, hms, -⟩ := Findings.exists_of_stopped_given (hstopped d hd)
  have hwidth : ms.length = width o d := length_relevant ho hms
  rw [hms, Findings.given, about_checkMethods, hwidth, fatDiagnostic]
  simp only [decide_eq_true_eq]

theorem mem_wide_iff : d ∈ wide o c ↔
    d ∈ c.registry.declarations ∧ o.maxMethods < Int.ofNat (width o d) := by
  simp [wide]

section Collected

variable {path : String} {limit : Int} {root : SyntaxTree} {s : Site}

def wideAt (o : Settings) (c : Context) (s : Site) : List Declaration :=
  (wide o c).filter fun d => d.site.address = s.address

theorem mem_wideAt_iff (hs : s ∈ root.visited limit) (hc : s.isClassLike = true) :
    d ∈ wideAt o (Context.collect path limit root) s ↔
      (¬ Context.Superseded limit (root.visited limit) (Context.collect path limit root) s ∧
        d = (Context.collect path limit root).current
          (Declaration.ofClass limit (Context.slashed path) s)) ∧
      o.maxMethods < Int.ofNat (width o d) := by
  rw [wideAt, List.mem_filter, mem_wide_iff, ← Context.mem_registry_at_iff hs hc, decide_eq_true_eq]
  exact and_right_comm

theorem nodup_wideAt : (wideAt o (Context.collect path limit root) s).Nodup := by
  refine List.Nodup.filter _ (List.Nodup.filter _ ?_)
  exact (List.mergeSort_perm _ _).nodup_iff.mpr (Context.nodup_registry path limit root)

theorem wideAt_eq (hs : s ∈ root.visited limit) (hc : s.isClassLike = true)
    (h : ¬ Context.Superseded limit (root.visited limit) (Context.collect path limit root) s)
    (hd : (Context.collect path limit root).declarationAt? s = some d) :
    wideAt o (Context.collect path limit root) s =
      if o.maxMethods < Int.ofNat (width o d) then [d] else [] := by
  rw [Context.declarationAt?_of_visited hs hc] at hd
  obtain rfl := Option.some.inj hd
  split
  · next hwide =>
    refine List.perm_singleton.mp ((List.perm_ext_iff_of_nodup nodup_wideAt (by simp)).mpr ?_)
    intro e
    rw [mem_wideAt_iff hs hc, List.mem_singleton]
    constructor
    · rintro ⟨⟨-, he⟩, -⟩
      exact he
    · rintro rfl
      exact ⟨⟨h, rfl⟩, hwide⟩
  · next hnarrow =>
    refine List.eq_nil_iff_forall_not_mem.mpr fun e he => ?_
    obtain ⟨⟨-, rfl⟩, hwide⟩ := (mem_wideAt_iff hs hc).mp he
    exact hnarrow hwide

structure ReportsWide (limit : Int) (visited : List Site) (r : Reporter) (o : Settings)
    (c : Context) : Prop where
  reported : (check r o c).about fatInterface = (wide o c).map (fatDiagnostic r o)
  located : ∀ d ∈ wide o c, d.site ∈ visited
  standing : ∀ s ∈ c.sites [.classDecl, .interfaceDecl], ¬ c.Superseded limit visited s →
    ∃ d, c.declarationAt? s = some d ∧ d.site = s ∧
      wideAt o c s = if o.maxMethods < Int.ofNat (width o d) then [d] else []
  superseded : ∀ s ∈ c.sites [.classDecl, .interfaceDecl], c.Superseded limit visited s →
    wideAt o c s = []

theorem fatInterface_reported_unless_superseded (r : Reporter) (o : Settings)
    (ho : o.ignoreInherited = false) (path : String) (limit : Int) (root : SyntaxTree) :
    let c := Context.collect path limit root
    (AreTexts o.excluded → (check r o c).stopped = none) ∧
      ((check r o c).stopped = none → ReportsWide limit (root.visited limit) r o c) := by
  intro c
  have hclass : ∀ s ∈ c.sites [.classDecl, .interfaceDecl],
      s ∈ root.visited limit ∧ s.isClassLike = true := by
    intro s hs
    rw [Context.sites_class] at hs
    exact List.mem_filter.mp hs
  refine ⟨fun h => stopped_check r h c, fun hstopped => ⟨about_check ho hstopped, ?_, ?_, ?_⟩⟩
  · intro d hd
    exact Context.site_mem_visited (mem_wide_iff.mp hd).1
  · intro s hs hstanding
    obtain ⟨hvisited, hs⟩ := hclass s hs
    have hd : c.declarationAt? s = some _ := Context.declarationAt?_of_visited hvisited hs
    have hsite : (c.current _).site = s :=
      congrArg Declaration.site (Context.uncounted_current hvisited hs)
    exact ⟨_, hd, hsite, wideAt_eq hvisited hs hstanding hd⟩
  · intro s hs hsuperseded
    obtain ⟨hvisited, hs⟩ := hclass s hs
    refine List.eq_nil_iff_forall_not_mem.mpr fun d hd => ?_
    exact ((mem_wideAt_iff hvisited hs).mp hd).1.1 hsuperseded

end Collected

-- [class { m() {} }, class { m() {} }];
def twinSource : Source :=
  Text.Utf8.encode "[class \x7b m() \x7b\x7d \x7d, class \x7b m() \x7b\x7d \x7d];"

def twinTree : ParseTree :=
  let named (type : String) (field : Option String) (start stop : Nat) (cs : List ParseTree) :
      ParseTree := .node ⟨type, start, stop, true, field⟩ cs
  let twin (start : Nat) : ParseTree :=
    named "class" none start (start + 16) [
      named "class_body" (some "body") (start + 6) (start + 16) [
        named "method_definition" (some "member") (start + 8) (start + 14) [
          named "property_identifier" (some "name") (start + 8) (start + 9) [],
          named "formal_parameters" (some "parameters") (start + 9) (start + 11) [],
          named "statement_block" (some "body") (start + 12) (start + 14) []]]]
  named "program" none 0 37 [
    named "expression_statement" none 0 37 [named "array" none 0 36 [twin 1, twin 19]]]

abbrev twinFile : Context :=
  Context.collect "src/a.js" 500 (.ofParse twinSource twinTree)

def noMethods : Settings :=
  { Settings.ofOptions schema.defaults with maxMethods := 0, ignoreInherited := false }

abbrev twinReporter : Reporter := ⟨"isp-violation", .warning, "src/a.js"⟩

abbrev twinFindings : Findings := check twinReporter noMethods twinFile

theorem exists_twin (last : Bool)
    (h : ((SyntaxTree.ofParse twinSource twinTree).visited 500).any (fun s =>
      Site.isClassLike s &&
        Context.isLastOfName "src/a.js" 500 (.ofParse twinSource twinTree) s == last) = true) :
    ∃ s ∈ twinFile.sites [.classDecl, .interfaceDecl],
      (last = true ↔
        ¬ twinFile.Superseded 500 ((SyntaxTree.ofParse twinSource twinTree).visited 500) s) := by
  obtain ⟨s, hs, h⟩ := List.any_eq_true.mp h
  obtain ⟨hclass, hlast⟩ := Bool.and_eq_true_iff.mp h
  obtain rfl := eq_of_beq hlast
  refine ⟨s, ?_, Context.isLastOfName_iff hs hclass⟩
  rw [Context.sites_class]
  exact List.mem_filter.mpr ⟨hs, hclass⟩

theorem width_twin {s : Site} (hs : s ∈ twinFile.sites [.classDecl, .interfaceDecl])
    {d : Declaration} (hd : twinFile.declarationAt? s = some d) :
    noMethods.maxMethods < Int.ofNat (width noMethods d) := by
  have h : (twinFile.sites [.classDecl, .interfaceDecl]).all (fun s =>
      (twinFile.declarationAt? s).all fun d =>
        noMethods.maxMethods < Int.ofNat (width noMethods d)) = true := by decide +kernel
  simpa [hd] using List.all_eq_true.mp h s hs

theorem wide_reported_among_twins :
    noMethods.ignoreInherited = false ∧
      twinFindings.about fatInterface =
        (wide noMethods twinFile).map (fatDiagnostic twinReporter noMethods) ∧
      (∃ s ∈ twinFile.sites [.classDecl, .interfaceDecl], wideAt noMethods twinFile s = []) ∧
      ∃ s ∈ twinFile.sites [.classDecl, .interfaceDecl], ∃ d,
        twinFile.declarationAt? s = some d ∧ wideAt noMethods twinFile s = [d] := by
  obtain ⟨hends, hreports⟩ := fatInterface_reported_unless_superseded twinReporter noMethods rfl
    "src/a.js" 500 (.ofParse twinSource twinTree)
  have hreports := hreports (hends (by decide))
  obtain ⟨first, hfirst, hsuperseded⟩ := exists_twin false (by decide +kernel)
  obtain ⟨second, hsecond, hstanding⟩ := exists_twin true (by decide +kernel)
  obtain ⟨d, hd, -, hwide⟩ := hreports.standing second hsecond (hstanding.mp rfl)
  rw [if_pos (width_twin hsecond hd)] at hwide
  have hnone := hreports.superseded first hfirst (by simpa using hsuperseded)
  exact ⟨rfl, hreports.reported, ⟨first, hfirst, hnone⟩, second, hsecond, d, hd, hwide⟩

theorem fatInterface_unreported_for_first_twin :
    ∃ s ∈ twinFile.sites [.classDecl, .interfaceDecl], ∃ d, twinFile.declarationAt? s = some d ∧
      noMethods.maxMethods < Int.ofNat (width noMethods d) ∧
      ∀ x ∈ twinFindings.about fatInterface, x.location ≠ .ofSite "src/a.js" s := by
  -- sorting does not evaluate, but the two classes share one place in the registry
  have hsorted : twinFile.registry.declarations.Pairwise fun a b =>
      decide (a.site.label.start ≤ b.site.label.start) = true := by decide +kernel
  have h : (twinFile.sites [.classDecl, .interfaceDecl]).any (fun s =>
      (twinFile.declarationAt? s).isSome &&
        (twinFindings.about fatInterface).all fun x => x.location ≠ .ofSite "src/a.js" s) =
          true := by
    rw [twinFindings, check, List.mergeSort_of_pairwise hsorted]
    decide +kernel
  obtain ⟨s, hs, h⟩ := List.any_eq_true.mp h
  obtain ⟨hd, hlocations⟩ := Bool.and_eq_true_iff.mp h
  obtain ⟨d, hd⟩ := Option.isSome_iff_exists.mp hd
  refine ⟨s, hs, d, hd, width_twin hs hd, ?_⟩
  simpa [List.all_eq_true] using hlocations

end Segregation

end DesignLint
