import DesignLint.Proofs.Diagnostic.Findings
import DesignLint.Proofs.Gathering.Usage
import DesignLint.Rule.Segregation
import DesignLint.SyntaxTree.Fold

namespace DesignLint

namespace Method

theorem names_recounted (count : String → Nat) (ms : List Method) :
    (recounted count ms).map (·.name) = ms.map (·.name) := by
  induction ms generalizing count with
  | nil => rfl
  | cons m rest ih => rw [recounted, List.map_cons, List.map_cons, ih, name_marked]

theorem exists_unused_recounted_iff {count : String → Nat} {ms : List Method} {name : String}
    (hms : ∀ m ∈ ms, m.isUsed = false) :
    (∃ m ∈ recounted count ms, m.name = name ∧ m.isUsed = false) ↔
      (if 0 < count name then 1 else 0) < ms.countP fun m => m.name = name := by
  induction ms generalizing count with
  | nil => simp [recounted]
  | cons x rest ih =>
    have hx : x.isUsed = false := hms x (by simp)
    have hrest := @ih (Function.update count x.name 0) fun m hm => hms m (by simp [hm])
    rw [recounted, List.exists_mem_cons_iff, hrest, List.countP_cons]
    by_cases hn : x.name = name
    · -- this method takes all uses of the name, and none is left for those behind it
      subst hn
      by_cases hc : 0 < count x.name <;> simp [marked, hx, hc]
    · have hn' : name ≠ x.name := fun e => hn e.symm
      simp [hn, Function.update_of_ne hn']

end Method

namespace Declaration

def times (d : Declaration) (name : String) : Nat :=
  d.methods.countP fun m => m.name = name

def isUsedAt (d : Declaration) (method : String) (s : Site) : Bool :=
  d.isReadAt method s || d.isCalledAt method s

end Declaration

namespace Context

variable {path : String} {limit : Int} {root : SyntaxTree}

theorem exists_unused_iff {d : Declaration}
    (h : d ∈ (collect path limit root).registry.declarations) (name : String) :
    (∃ m ∈ d.methods, m.name = name ∧ m.isUsed = false) ↔
      (if (root.visited limit).any (d.isUsedAt name) then 1 else 0) < d.times name := by
  obtain ⟨e, he, rfl⟩ := exists_uncounted_of_mem_registry h
  have hunused : ∀ m ∈ e.methods, m.isUsed = false := by
    intro m hm
    rw [← e.uncounted_of_mem he hm]
    rfl
  have htimes : (Registry.counted (uses limit root) e).times name =
      e.methods.countP fun m => m.name = name := by
    have hnames := Method.names_recounted (Registry.usesOf (uses limit root) e) e.methods
    have hcount := congrArg (List.countP fun n => n = name) hnames
    rw [Declaration.times, Registry.methods_counted]
    simpa [List.countP_map, Function.comp_def] using hcount
  have huses : 0 < Registry.usesOf (uses limit root) e name ↔
      (root.visited limit).any ((Registry.counted (uses limit root) e).isUsedAt name) := by
    rw [← Registry.usesOf_counted (uses limit root) (uses limit root) e name, uses,
      Registry.usesOf_filterMap]
    simp only [Nat.add_pos_iff_pos_or_pos, List.countP_pos_iff, List.any_eq_true,
      Declaration.isUsedAt, Bool.or_eq_true]
    constructor
    · rintro (⟨s, hs, hread⟩ | ⟨s, hs, hcalled⟩)
      · exact ⟨s, hs, .inl hread⟩
      · exact ⟨s, hs, .inr hcalled⟩
    · rintro ⟨s, hs, hread | hcalled⟩
      · exact .inl ⟨s, hs, hread⟩
      · exact .inr ⟨s, hs, hcalled⟩
  rw [htimes, Registry.methods_counted, Method.exists_unused_recounted_iff hunused]
  simp only [huses]

end Context

namespace Segregation

def Relevant (o : Settings) (c : Context) (d : Declaration) (name : String) : Prop :=
  (∀ word, .text word ∈ o.excluded → Text.within word name = false) ∧
    ¬ (o.ignoreInherited = true ∧ d.origin = .classDecl ∧
      c.inheritance.isInherited c.registry d.name name = true)

theorem not_excluded_or_inherited_iff {o : Settings} {c : Context} {d : Declaration} {m : Method}
    {excluded : Bool} (h : isExcluded o m = .ok excluded) :
    (excluded || isInheritedIn o c d m) = false ↔ Relevant o c d m.name := by
  have hexcluded := Trial.any_asText_eq_ok h
  rw [Bool.or_eq_false_iff, Relevant, ← Bool.not_eq_true, hexcluded, isInheritedIn]
  refine and_congr ?_ ?_
  · simp
  · simp

theorem relevant_cons_eq_ok {o : Settings} {c : Context} {d : Declaration} {x : Method}
    {rest kept : List Method} (h : relevant o c d (x :: rest) = .ok kept) :
    ∃ others, relevant o c d rest = .ok others ∧
      (Relevant o c d x.name ∧ kept = x :: others ∨ ¬ Relevant o c d x.name ∧ kept = others) := by
  rw [relevant] at h
  cases hx : isExcluded o x with
  | error e =>
    rw [hx] at h
    cases h
  | ok excluded =>
    have hcounts := not_excluded_or_inherited_iff (c := c) (d := d) hx
    cases hrest : relevant o c d rest with
    | error e =>
      rw [hx, hrest] at h
      cases h
    | ok others =>
      rw [hx, hrest] at h
      have hkept := (Except.ok.inj h).symm
      refine ⟨others, rfl, ?_⟩
      cases hdrop : (excluded || isInheritedIn o c d x) with
      | true => exact .inr ⟨by simp [← hcounts, hdrop], by simpa [hdrop] using hkept⟩
      | false => exact .inl ⟨hcounts.mp hdrop, by simpa [hdrop] using hkept⟩

theorem mem_relevant_iff {o : Settings} {c : Context} {d : Declaration} {ms kept : List Method}
    (h : relevant o c d ms = .ok kept) (m : Method) :
    m ∈ kept ↔ m ∈ ms ∧ Relevant o c d m.name := by
  induction ms generalizing kept with
  | nil =>
    obtain rfl := Except.ok.inj h
    simp
  | cons x rest ih =>
    obtain ⟨others, hrest, ⟨hx, rfl⟩ | ⟨hx, rfl⟩⟩ := relevant_cons_eq_ok h
    · rw [List.mem_cons, List.mem_cons, ih hrest]
      constructor
      · rintro (rfl | ⟨hm, hr⟩)
        · exact ⟨.inl rfl, hx⟩
        · exact ⟨.inr hm, hr⟩
      · rintro ⟨rfl | hm, hr⟩
        · exact .inl rfl
        · exact .inr ⟨hm, hr⟩
    · rw [List.mem_cons, ih hrest]
      constructor
      · rintro ⟨hm, hr⟩
        exact ⟨.inr hm, hr⟩
      · rintro ⟨rfl | hm, hr⟩
        · exact absurd hr hx
        · exact ⟨hm, hr⟩

theorem data_of_unusedMethods {r : Reporter} {o : Settings} {d : Declaration} {ms : List Method}
    {x : Diagnostic} (hx : x ∈ (checkMethods r o d ms).diagnostics)
    (hid : x.message.id = unusedMethods.id) :
    x.location = .ofSite r.file d.site ∧
      Assoc.get? "name" x.data = some (.text d.name) ∧
      Assoc.get? "unused" x.data =
        some (.list (((ms.filter (!·.isUsed)).map (·.name)).map .text)) := by
  have other {condition : Bool} {m : Message} {data : Fields}
      (h : x ∈ (Findings.when condition (r.report m d.site data)).diagnostics) :
      m.id = unusedMethods.id := Reporter.message_of_mem_when h ▸ hid
  rcases Findings.mem_diagnostics_append hx with hx | hx
  · rcases Findings.mem_diagnostics_append hx with hx | hx
    · rcases Findings.mem_diagnostics_append hx with hx | hx
      · exact absurd (other hx) (by decide)
      · obtain rfl := Reporter.eq_of_mem_report (Findings.mem_diagnostics_when hx).2
        simp [Assoc.get?]
    · exact absurd (other hx) (by decide)
  · exact absurd (other hx) (by decide)

structure ListsUnused (visited : List Site) (o : Settings) (c : Context) (d : Declaration)
    (names : List String) : Prop where
  unused : ∀ name, visited.any (d.isUsedAt name) = false →
    (name ∈ names ↔ Relevant o c d name ∧ 0 < d.times name)
  used : ∀ name, visited.any (d.isUsedAt name) = true →
    (name ∈ names ↔ Relevant o c d name ∧ 1 < d.times name)

theorem unusedMethods_listsUnused (r : Reporter) (o : Settings) (path : String) (limit : Int)
    (root : SyntaxTree) (x : Diagnostic)
    (hx : x ∈ (check r o (Context.collect path limit root)).diagnostics)
    (hid : x.message.id = unusedMethods.id) :
    ∃ d ∈ (Context.collect path limit root).registry.declarations, ∃ names,
      x.location = .ofSite r.file d.site ∧
      Assoc.get? "name" x.data = some (.text d.name) ∧
      Assoc.get? "unused" x.data = some (.list (names.map .text)) ∧
      ListsUnused (root.visited limit) o (Context.collect path limit root) d names := by
  obtain ⟨d, hd, hx⟩ := Findings.mem_diagnostics_each hx
  obtain ⟨ms, hms, hx⟩ := Findings.mem_diagnostics_given hx
  have hd : d ∈ (Context.collect path limit root).registry.declarations :=
    List.mem_mergeSort.mp hd
  obtain ⟨hlocation, hname, hunused⟩ := data_of_unusedMethods hx hid
  have hlisted (name : String) : name ∈ (ms.filter (!·.isUsed)).map (·.name) ↔
      Relevant o (Context.collect path limit root) d name ∧
        (if (root.visited limit).any (d.isUsedAt name) then 1 else 0) < d.times name := by
    rw [← Context.exists_unused_iff hd]
    constructor
    · intro h
      obtain ⟨m, hm, rfl⟩ := List.mem_map.mp h
      obtain ⟨hkept, hused⟩ := List.mem_filter.mp hm
      obtain ⟨hmem, hrelevant⟩ := (mem_relevant_iff hms m).mp hkept
      exact ⟨hrelevant, m, hmem, rfl, by simpa using hused⟩
    · rintro ⟨hrelevant, m, hmem, rfl, hused⟩
      have hkept : m ∈ ms := (mem_relevant_iff hms m).mpr ⟨hmem, hrelevant⟩
      exact List.mem_map.mpr ⟨m, List.mem_filter.mpr ⟨hkept, by simp [hused]⟩, rfl⟩
  refine ⟨d, hd, _, hlocation, hname, hunused, ?_, ?_⟩
  · intro name h
    rw [hlisted, h]
    simp
  · intro name h
    rw [hlisted, h]
    simp

def accessorFile : ParseTree :=
  let named (type : String) (field : Option String) (start stop : Nat) (cs : List ParseTree) :
      ParseTree := .node ⟨type, start, stop, true, field⟩ cs
  let token (type : String) (start stop : Nat) : ParseTree :=
    .node ⟨type, start, stop, false, none⟩ []
  let method (start name : Nat) (words parameters : List ParseTree) : ParseTree :=
    let close := name + 2 + parameters.length
    named "method_definition" (some "member") start (close + 4) (words ++ [
      named "property_identifier" (some "name") name (name + 1) [],
      named "formal_parameters" (some "parameters") (name + 1) (close + 1)
        (token "(" (name + 1) (name + 2) :: parameters ++ [token ")" close (close + 1)]),
      named "statement_block" (some "body") (close + 2) (close + 4)
        [token "\x7b" (close + 2) (close + 3), token "\x7d" (close + 3) (close + 4)]])
  named "program" none 0 81 [
    named "class_declaration" none 0 76 [
      token "class" 0 5,
      named "identifier" (some "name") 6 7 [],
      named "class_body" (some "body") 8 76 [
        token "\x7b" 8 9,
        method 10 21 [token "static" 10 16, token "get" 17 20] [],
        method 28 39 [token "static" 28 34, token "set" 35 38] [named "identifier" none 41 42 []],
        method 47 47 [] [], method 54 54 [] [], method 61 61 [] [], method 68 68 [] [],
        token "\x7d" 75 76]],
    named "expression_statement" none 77 81 [
      named "member_expression" none 77 80 [
        named "identifier" (some "object") 77 78 [],
        token "." 78 79,
        named "property_identifier" (some "property") 79 80 []],
      token ";" 80 81]]

def accessorSource : Source :=
  Text.Utf8.encode ("class A \x7b static get v() \x7b\x7d static set v(x) \x7b\x7d b() \x7b\x7d " ++
    "c() \x7b\x7d d() \x7b\x7d e() \x7b\x7d \x7d\nA.v;")

abbrev accessorContext : Context :=
  Context.collect "a.js" 500 (.ofParse accessorSource accessorFile)

abbrev accessorFindings : Findings :=
  check ⟨"isp-violation", .warning, "a.js"⟩ (.ofOptions schema.defaults) accessorContext

def lists (name : String) (x : Diagnostic) : Bool :=
  match Assoc.get? "unused" x.data with
  | some (.list items) => items.any fun v => v.asText? = some name
  | _ => false

theorem exists_accessor_report :
    ∃ x ∈ accessorFindings.diagnostics, x.message.id = unusedMethods.id ∧
      Assoc.get? "name" x.data = some (.text "A") ∧
      ∃ items, Assoc.get? "unused" x.data = some (.list items) ∧ .text "v" ∈ items := by
  -- sorting does not evaluate, but a single declaration is sorted
  have hsorted : accessorContext.registry.declarations.Pairwise fun a b =>
      decide (a.site.label.start ≤ b.site.label.start) = true := by decide +kernel
  have hreport : accessorFindings.diagnostics.any (fun x => x.message.id = unusedMethods.id &&
      (Assoc.get? "name" x.data).bind Value.asText? = some "A" && lists "v" x) = true := by
    rw [accessorFindings, check, List.mergeSort_of_pairwise hsorted]
    decide +kernel
  obtain ⟨x, hx, h⟩ := List.any_eq_true.mp hreport
  simp only [Bool.and_eq_true, decide_eq_true_eq] at h
  obtain ⟨⟨hid, hname⟩, hlists⟩ := h
  obtain ⟨v, hv, htext⟩ := Option.bind_eq_some_iff.mp hname
  obtain rfl := Value.asText?_eq_some.mp htext
  refine ⟨x, hx, hid, hv, ?_⟩
  rw [lists] at hlists
  split at hlists
  · next items hitems =>
    obtain ⟨w, hw, htext⟩ := List.any_eq_true.mp hlists
    obtain rfl := Value.asText?_eq_some.mp (by simpa using htext)
    exact ⟨items, hitems, hw⟩
  · cases hlists

theorem exists_accessor_read :
    ∃ d ∈ accessorContext.registry.declarations, d.name = "A" ∧
      ∃ s ∈ (SyntaxTree.ofParse accessorSource accessorFile).visited 500,
        d.isReadAt "v" s = true := by
  have hread : accessorContext.registry.declarations.any (fun d => d.name = "A" &&
      ((SyntaxTree.ofParse accessorSource accessorFile).visited 500).any (d.isReadAt "v")) =
        true := by
    decide +kernel
  obtain ⟨d, hd, h⟩ := List.any_eq_true.mp hread
  obtain ⟨hname, hany⟩ := Bool.and_eq_true_iff.mp h
  exact ⟨d, hd, by simpa using hname, List.any_eq_true.mp hany⟩

theorem accessorFindings_listsUnused :
    ∃ x ∈ accessorFindings.diagnostics, x.message.id = unusedMethods.id ∧
      ∃ d ∈ accessorContext.registry.declarations, ∃ names,
        Assoc.get? "unused" x.data = some (.list (names.map .text)) ∧
        ListsUnused ((SyntaxTree.ofParse accessorSource accessorFile).visited 500)
          (.ofOptions schema.defaults) accessorContext d names := by
  obtain ⟨x, hx, hid, -⟩ := exists_accessor_report
  obtain ⟨d, hd, names, -, -, hnames, hlists⟩ :=
    unusedMethods_listsUnused _ _ "a.js" 500 (.ofParse accessorSource accessorFile) x hx hid
  exact ⟨x, hx, hid, d, hd, names, hnames, hlists⟩

theorem unusedMethods_lists_read :
    ∃ x ∈ accessorFindings.diagnostics, x.message.id = unusedMethods.id ∧
      ∃ d ∈ accessorContext.registry.declarations,
        Assoc.get? "name" x.data = some (.text d.name) ∧
        (∃ items, Assoc.get? "unused" x.data = some (.list items) ∧ .text "v" ∈ items) ∧
        ∃ s ∈ (SyntaxTree.ofParse accessorSource accessorFile).visited 500,
          d.isReadAt "v" s = true := by
  obtain ⟨x, hx, hid, hname, hitems⟩ := exists_accessor_report
  obtain ⟨d, hd, hd', hread⟩ := exists_accessor_read
  exact ⟨x, hx, hid, d, hd, by rw [hname, hd'], hitems, hread⟩

end Segregation

end DesignLint
