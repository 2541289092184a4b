import DesignLint.Proofs.Declaration.Hierarchy
import DesignLint.Proofs.Rule.Substitution
import DesignLint.Rule.Catalog

namespace DesignLint

namespace Inheritance

def chain (g : Inheritance) (start : String) : List String :=
  start :: g.ancestors start

theorem mem_chain_of_mem_ancestors {g : Inheritance} {child name : String}
    (h : name ∈ g.ancestors child) : ∃ p, g.parentOf child = some p ∧ name ∈ g.chain p := by
  have hway := isWay_ancestors g child
  cases hancestors : g.ancestors child with
  | nil =>
    rw [hancestors] at h
    cases h
  | cons p rest =>
    rw [hancestors] at h hway
    have hsplit : g.ancestors child = [] ++ p :: rest := hancestors
    have hrest : rest <+: g.ancestors p := prefix_ancestors_of_ancestor hsplit
    refine ⟨p, hway.1, ?_⟩
    rcases List.mem_cons.mp h with rfl | hname
    · exact List.mem_cons_self
    · exact List.mem_cons_of_mem p (hrest.subset hname)

theorem mem_ancestors_of_findInherited {g : Inheritance} {r : Registry} {child method : String}
    {e : Declaration} {b : Method} (h : g.findInherited r child method = some (e, b)) :
    ∃ name ∈ g.ancestors child, r.get? name = some e := by
  obtain ⟨before, name, after, hancestors, -, hget, -⟩ := firstDeclaring_eq_some_iff.mp h
  exact ⟨name, by simp [hancestors], hget⟩

end Inheritance

namespace Context

def last? (c : Context) (name : String) : Option Declaration :=
  c.declarations.reverse.find? fun d => d.name = name

variable {path : String} {limit : Int} {root : SyntaxTree}

theorem uncounted_declarations :
    (collect path limit root).declarations.map Declaration.uncounted =
      Gathering.classDeclarations limit (slashed path) (root.visited limit) := by
  rw [declarations_collect, List.map_map]
  refine List.map_congr_left fun s hs => ?_
  obtain ⟨hvisited, hclass⟩ := List.mem_filter.mp hs
  exact uncounted_current hvisited hclass

theorem parentOf_collect (name : String) :
    (collect path limit root).inheritance.parentOf name =
      ((collect path limit root).last? name).bind Declaration.properSuperclass := by
  rw [collect_inheritance,
    Gathering.parentOf_recordAll _ fun _ => Gathering.name_ne_empty_of_mem_classDeclarations,
    ← uncounted_declarations, ← List.map_reverse, List.find?_map, Option.bind_map]
  rfl

end Context

namespace Substitution

def overrideMessages : List Message :=
  [strongerPrecondition, weakerPostcondition, newExceptionType]

def overrideData (m : Method) (base : String) : Fields :=
  [("name", .text m.name), ("base", .text base)]

variable {r : Reporter} {o : Settings} {c : Context} {d : Declaration} {x : Diagnostic}

theorem mem_checkOverride {m : Method} {b : Base} (h : x ∈ (checkOverride r m b).diagnostics) :
    ∃ message ∈ overrideMessages, x = r.diagnostic message m.site (overrideData m b.name) := by
  rw [checkOverride] at h
  rcases Findings.mem_diagnostics_append h with h | h
  · rcases Findings.mem_diagnostics_append h with h | h
    · exact ⟨strongerPrecondition, by simp [overrideMessages],
        Reporter.eq_of_mem_report (Findings.mem_diagnostics_when h).2⟩
    · exact ⟨weakerPostcondition, by simp [overrideMessages],
        Reporter.eq_of_mem_report (Findings.mem_diagnostics_when h).2⟩
  · exact ⟨newExceptionType, by simp [overrideMessages],
      Reporter.eq_of_mem_report (Findings.mem_diagnostics_when h).2⟩

theorem mem_overrides {m : Method} {b : Base} (h : (m, b) ∈ overrides o c d) :
    m ∈ d.methods ∧ baseOf? o c d m = some b := by
  obtain ⟨n, hn, h⟩ := List.mem_filterMap.mp h
  split at h
  · cases h
  · obtain ⟨b', hb, h⟩ := Option.map_eq_some_iff.mp h
    obtain ⟨rfl, rfl⟩ := Prod.mk.inj h
    exact ⟨hn, hb⟩

theorem mem_checkClass (h : x ∈ (checkClass r o c d).diagnostics)
    (hid : ∃ message ∈ overrideMessages, x.message.id = message.id) :
    ∃ m ∈ d.methods, ∃ b, baseOf? o c d m = some b ∧
      ∃ message ∈ overrideMessages, x = r.diagnostic message m.site (overrideData m b.name) := by
  rw [checkClass] at h
  rcases Findings.mem_diagnostics_append h with h | h
  · obtain ⟨⟨m, b⟩, hmem, h⟩ := Findings.mem_diagnostics_each h
    obtain ⟨hm, hb⟩ := mem_overrides hmem
    exact ⟨m, hm, b, hb, mem_checkOverride h⟩
  · obtain ⟨message, hmessage, hid⟩ := hid
    rw [Reporter.message_of_mem_when h] at hid
    simp only [overrideMessages, List.mem_cons, List.not_mem_nil, or_false] at hmessage
    rcases hmessage with rfl | rfl | rfl <;> exact absurd hid (by decide)

structure JudgedBy (c : Context) (d : Declaration) (own : String) (m : Method) (base : String) :
    Prop where
  method : m ∈ d.methods
  alone : c.inheritance.findInherited c.registry d.name m.name = none → base = own
  inherited : ∀ e b, c.inheritance.findInherited c.registry d.name m.name = some (e, b) →
    e.name = base ∧ ∃ last p, c.last? d.name = some last ∧ last.properSuperclass = some p ∧
      base ∈ c.inheritance.chain p

theorem judgedBy_of_baseOf? {path : String} {limit : Int} {root : SyntaxTree} {own : String}
    {m : Method} {b : Base} (hm : m ∈ d.methods) (hown : d.properSuperclass = some own)
    (hb : baseOf? o (Context.collect path limit root) d m = some b) :
    JudgedBy (Context.collect path limit root) d own m b.name := by
  have hsuper : d.superclass = some own := (Option.filter_eq_some_iff.mp hown).1
  refine ⟨hm, ?_, ?_⟩
  · intro hnone
    rw [baseOf?, hnone] at hb
    dsimp only at hb
    split at hb
    · obtain rfl := Option.some.inj hb
      simp [hsuper]
    · cases hb
  · intro e inheritedMethod hsome
    rw [baseOf?, hsome] at hb
    obtain rfl := Option.some.inj hb
    obtain ⟨name, hname, hget⟩ := Inheritance.mem_ancestors_of_findInherited hsome
    obtain ⟨-, rfl⟩ := Context.mem_registry_of_get? hget
    obtain ⟨p, hparent, hchain⟩ := Inheritance.mem_chain_of_mem_ancestors hname
    rw [Context.parentOf_collect] at hparent
    obtain ⟨last, hlast, hp⟩ := Option.bind_eq_some_iff.mp hparent
    exact ⟨rfl, last, p, hlast, hp, hchain⟩

theorem JudgedBy.mem_chain {own : String} {m : Method} {base : String}
    (h : JudgedBy c d own m base)
    (hlast : (c.last? d.name).bind Declaration.properSuperclass = some own) :
    base ∈ c.inheritance.chain own := by
  cases hinherited : c.inheritance.findInherited c.registry d.name m.name with
  | none =>
    rw [h.alone hinherited]
    exact List.mem_cons_self
  | some found =>
    obtain ⟨-, last, p, hd, hp, hchain⟩ := h.inherited found.1 found.2 hinherited
    rw [hd, Option.bind_some, hp] at hlast
    obtain rfl := Option.some.inj hlast
    exact hchain

abbrev reporter (severity : Severity) (c : Context) : Reporter :=
  ⟨Rule.substitution.id, severity, c.path⟩

structure ReportedFor (o : Settings) (severity : Severity) (c : Context) (d : Declaration)
    (own : String) (x : Diagnostic) : Prop where
  declared : d ∈ c.declarations
  origin : d.origin = .classDecl
  superclass : d.properSuperclass = some own
  reported : x ∈ (checkClass (reporter severity c) o c d).diagnostics

theorem exists_reportedFor {severity : Severity}
    (h : x ∈ (check (reporter severity c) o c).diagnostics) :
    ∃ d own, ReportedFor o severity c d own x := by
  obtain ⟨d, hd, hx⟩ := Findings.mem_diagnostics_each h
  obtain ⟨hdeclared, hd⟩ := List.mem_filter.mp hd
  obtain ⟨horigin, hsuper⟩ := Bool.and_eq_true_iff.mp hd
  obtain ⟨own, hown⟩ := Option.isSome_iff_exists.mp hsuper
  exact ⟨d, own, hdeclared, of_decide_eq_true horigin, hown, hx⟩

theorem ReportedFor.mem_check {severity : Severity} {own : String}
    (h : ReportedFor o severity c d own x) :
    x ∈ (check (reporter severity c) o c).diagnostics := by
  rw [check, Findings.diagnostics_each fun d _ => stopped_checkClass _ o c d]
  refine List.mem_flatMap.mpr ⟨d, List.mem_filter.mpr ⟨h.declared, ?_⟩, h.reported⟩
  simp [h.origin, h.superclass]

theorem override_judged_by_last_declaration (o : Settings) (severity : Severity)
    (probe : String → Bool) (path : String) (limit : Int) (root : SyntaxTree)
    (hx : x ∈ (Detector.check ⟨.substitution o, severity⟩ probe
      (Context.collect path limit root)).diagnostics)
    (hid : ∃ message ∈ overrideMessages, x.message.id = message.id) :
    let c := Context.collect path limit root
    (∃ d own, ReportedFor o severity c d own x) ∧
    ∀ d own, ReportedFor o severity c d own x → ∃ m base,
      x.location = .ofSite c.path m.site ∧ x.data = overrideData m base ∧
      JudgedBy c d own m base ∧
      ((c.last? d.name).bind Declaration.properSuperclass = some own →
        base ∈ c.inheritance.chain own) := by
  intro c
  refine ⟨exists_reportedFor hx, fun d own hd => ?_⟩
  obtain ⟨m, hm, b, hb, message, -, rfl⟩ := mem_checkClass hd.reported hid
  have hjudged : JudgedBy c d own m b.name := judgedBy_of_baseOf? hm hd.superclass hb
  exact ⟨m, b.name, rfl, rfl, hjudged, hjudged.mem_chain⟩

-- class B { m(x) {} }
-- class C { m(x, y) {} }
-- class A extends B { m(x) {} }
-- class A extends C { m(x, y) {} }
def redeclaringSource : Source :=
  Text.Utf8.encode ("class B \x7b m(x) \x7b\x7d \x7d\nclass C \x7b m(x, y) \x7b\x7d \x7d\n" ++
    "class A extends B \x7b m(x) \x7b\x7d \x7d\nclass A extends C \x7b m(x, y) \x7b\x7d \x7d")

def redeclaringTree : ParseTree :=
  let named (type : String) (field : Option String) (start stop : Nat) (cs : List ParseTree) :
      ParseTree := .node ⟨type, start, stop, true, field⟩ cs
  let parameter (start : Nat) : ParseTree := named "identifier" none start (start + 1) []
  let method (start stop : Nat) (parameters : List Nat) : ParseTree :=
    named "method_definition" (some "member") start stop [
      named "property_identifier" (some "name") start (start + 1) [],
      named "formal_parameters" (some "parameters") (start + 1) (stop - 3)
        (parameters.map parameter),
      named "statement_block" (some "body") (stop - 2) stop []]
  let declare (start stop : Nat) (heritage : List ParseTree) (body : Nat) (m : ParseTree) :
      ParseTree :=
    named "class_declaration" none start stop
      (named "identifier" (some "name") (start + 6) (start + 7) [] :: heritage ++
        [named "class_body" (some "body") body stop [m]])
  let heritage (start : Nat) : ParseTree :=
    named "class_heritage" none start (start + 9) [parameter (start + 8)]
  named "program" none 0 105 [
    declare 0 19 [] 8 (method 10 17 [12]),
    declare 20 42 [] 28 (method 30 40 [32, 35]),
    declare 43 72 [heritage 51] 61 (method 63 70 [65]),
    declare 73 105 [heritage 81] 91 (method 93 103 [95, 98])]

abbrev redeclaringFile : Context :=
  fileContext "src/a.js" 500 redeclaringSource redeclaringTree

theorem exists_report_against {own base : String} {severity : Severity}
    (h : c.declarations.any (fun d => d.origin = .classDecl && d.properSuperclass = some own &&
      (checkClass (reporter severity c) o c d).diagnostics.any fun x =>
        x.message.id = strongerPrecondition.id &&
          (Assoc.get? "base" x.data).bind Value.asText? = some base) = true) :
    ∃ d x, ReportedFor o severity c d own x ∧ x.message.id = strongerPrecondition.id ∧
      Assoc.get? "base" x.data = some (.text base) := by
  obtain ⟨d, hd, h⟩ := List.any_eq_true.mp h
  simp only [Bool.and_eq_true, decide_eq_true_eq, List.any_eq_true] at h
  obtain ⟨⟨horigin, hown⟩, x, hx, hid, hbase⟩ := h
  obtain ⟨v, hv, htext⟩ := Option.bind_eq_some_iff.mp hbase
  obtain rfl := Value.asText?_eq_some.mp htext
  exact ⟨d, x, ⟨hd, horigin, hown, hx⟩, hid, hv⟩

theorem exists_report_of_redeclaringFile :
    ∃ d x, ReportedFor (.ofOptions schema.defaults) .warning redeclaringFile d "B" x ∧
      x.message.id = strongerPrecondition.id ∧
      Assoc.get? "base" x.data = some (.text "C") :=
  exists_report_against (by decide +kernel)

theorem override_judged_in_redeclaringFile :
    ∃ d x, ReportedFor (.ofOptions schema.defaults) .warning redeclaringFile d "B" x ∧
      x.message.id = strongerPrecondition.id ∧
      ∃ m, x.data = overrideData m "C" ∧ JudgedBy redeclaringFile d "B" m "C" := by
  obtain ⟨d, x, hd, hid, hbase⟩ := exists_report_of_redeclaringFile
  obtain ⟨-, hjudged⟩ := override_judged_by_last_declaration (.ofOptions schema.defaults) .warning
    (fun _ => false) "src/a.js" 500 (.ofParse redeclaringSource redeclaringTree)
    hd.mem_check ⟨strongerPrecondition, by simp [overrideMessages], hid⟩
  obtain ⟨m, base, -, hdata, hm, -⟩ := hjudged d "B" hd
  rw [hdata] at hbase
  obtain rfl : base = "C" := Value.text.inj (Option.some.inj hbase)
  exact ⟨d, x, hd, hid, m, hdata, hm⟩

theorem override_judged_outside_chain :
    ∃ d x, ReportedFor (.ofOptions schema.defaults) .warning redeclaringFile d "B" x ∧
      x ∈ (Detector.check ⟨.substitution (.ofOptions schema.defaults), .warning⟩ (fun _ => false)
        redeclaringFile).diagnostics ∧
      x.message.id = strongerPrecondition.id ∧
      Assoc.get? "base" x.data = some (.text "C") ∧
      "C" ∉ redeclaringFile.inheritance.chain "B" := by
  obtain ⟨d, x, hd, hid, hbase⟩ := exists_report_of_redeclaringFile
  exact ⟨d, x, hd, hd.mem_check, hid, hbase, by decide +kernel⟩

end Substitution

end DesignLint
