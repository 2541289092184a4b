import DesignLint.Proofs.Rule.Completion
import DesignLint.Proofs.Rule.Reports
import DesignLint.Workspace
import Mathlib.Tactic.Choose

namespace DesignLint

namespace Outcome

def restrict (ids : List String) (o : Outcome) : Outcome where
  diagnostics := o.diagnostics.filter fun d => d.rule ∈ ids
  stopped := o.stopped.filter fun r => r.id ∈ ids

theorem append_def (a b : Outcome) :
    a ++ b = ⟨a.diagnostics ++ b.diagnostics, a.stopped ++ b.stopped⟩ := rfl

theorem restrict_append (ids : List String) (a b : Outcome) :
    (a ++ b).restrict ids = a.restrict ids ++ b.restrict ids := by
  simp [append_def, restrict]

theorem restrict_ofFindings {ids : List String} {r : Rule} {f : Findings}
    (h : f.All fun d => d.rule = r.id) :
    (ofFindings r f).restrict ids = if r.id ∈ ids then ofFindings r f else {} := by
  by_cases hr : r.id ∈ ids
  · have hd : f.diagnostics.filter (fun d => d.rule ∈ ids) = f.diagnostics :=
      List.filter_eq_self.mpr fun d hd => by simpa [h d hd] using hr
    have hs : (ofFindings r f).stopped.filter (fun q => q.id ∈ ids) = (ofFindings r f).stopped := by
      refine List.filter_eq_self.mpr fun q hq => ?_
      rw [ofFindings] at hq
      split at hq
      · simpa [List.mem_singleton.mp hq] using hr
      · cases hq
    rw [if_pos hr, restrict, hs]
    simp [ofFindings, hd]
  · have hd : f.diagnostics.filter (fun d => d.rule ∈ ids) = [] :=
      List.filter_eq_nil_iff.mpr fun d hd => by simpa [h d hd] using hr
    rw [if_neg hr, restrict, ofFindings, hd]
    split <;> simp [hr]

end Outcome

namespace Engine

theorem runAll_of_probe {e e' : Engine} (h : e.probe = e'.probe) (c : Context)
    (ds : List Detector) : e.runAll c ds = e'.runAll c ds := by
  induction ds with
  | nil => rfl
  | cons d rest ih => rw [runAll, runAll, h, ih]

theorem restrict_runAll (e : Engine) (c : Context) (ids : List String) (ds : List Detector) :
    (e.runAll c ds).restrict ids = e.runAll c (ds.filter fun d => d.rule.id ∈ ids) := by
  induction ds with
  | nil => rfl
  | cons d rest ih =>
    have hd : (d.check e.probe c).All fun x => x.rule = d.rule.id :=
      fun x hx => (d.signs_check e.probe c x hx).1
    rw [runAll, Outcome.restrict_append, ih, Outcome.restrict_ofFindings hd, List.filter_cons]
    by_cases h : d.rule.id ∈ ids
    · simp [h, runAll]
    · simp [h, Outcome.append_def]

end Engine

theorem Checker.rule_build {r : Rule} {o : Fields} {c : Checker} (h : build r o = .ok c) :
    c.rule = r := by
  have ofMap {α : Type} {x : Except ConfigError α} {make : α → Checker} {r : Rule}
      (hmake : ∀ a, (make a).rule = r) (h : x.map make = .ok c) : c.rule = r := by
    cases x with
    | error e => cases h
    | ok a =>
      obtain rfl := Except.ok.inj h
      exact hmake a
  cases r with
  | inversion => exact ofMap (fun _ => rfl) h
  | architecture => exact ofMap (fun _ => rfl) h
  | _ => exact (Except.ok.inj h) ▸ rfl

namespace Detector

section Built

variable {settings : Settings} {checkerOf : Rule → Checker}
  (built : ∀ r, Checker.build r (settings r).options = .ok (checkerOf r))
include built

theorem buildFrom_eq_ok (rules : List Rule) :
    buildFrom settings rules = .ok (rules.map fun r => ⟨checkerOf r, (settings r).severity⟩) := by
  induction rules with
  | nil => rfl
  | cons r rest ih =>
    rw [buildFrom, built r, ih]
    rfl

theorem build_eq_ok {ids : List String} (hne : ids ≠ [])
    (hids : ∀ id ∈ ids, ∃ r : Rule, r.id = id) :
    build settings ids = .ok ((Rule.all.filter fun r => r.id ∈ ids).map fun r =>
      ⟨checkerOf r, (settings r).severity⟩) := by
  have hknown : ids.find? (fun id => (Rule.named? id).isNone) = none :=
    (find?_unknown_eq_none_iff ids).mpr hids
  have hselected : Rule.all.filter (isSelected settings ids) =
      Rule.all.filter fun r => r.id ∈ ids :=
    List.filter_congr fun r _ => by simp [isSelected, hne]
  rw [build, hknown, hselected]
  exact buildFrom_eq_ok built _

theorem filter_detectors (ids : List String) (rules : List Rule) :
    (rules.map fun r => (⟨checkerOf r, (settings r).severity⟩ : Detector)).filter
        (fun d => d.rule.id ∈ ids) =
      (rules.filter fun r => r.id ∈ ids).map fun r => ⟨checkerOf r, (settings r).severity⟩ := by
  rw [List.filter_map]
  refine congrArg (List.map _) (List.filter_congr fun r _ => ?_)
  have hr : (checkerOf r).rule = r := Checker.rule_build (built r)
  simp [Detector.rule, hr]

end Built

end Detector

namespace Workspace

theorem analyzeAll_eq (w : Workspace) (e : Engine) (files : List Segments) :
    w.analyzeAll e files =
      (⟨(files.filterMap (w.analyzeFile? e)).flatMap (·.diagnostics),
        (files.filterMap (w.analyzeFile? e)).flatMap (·.stopped)⟩,
       files.filter fun p => (w.analyzeFile? e p).isNone) := by
  rw [analyzeAll]
  generalize w.analyzeFile? e = analyze
  induction files with
  | nil => rfl
  | cons p rest ih =>
    rw [List.foldr_cons, ih]
    cases h : analyze p with
    | none => simp [h, addFile]
    | some found => simp [h, addFile, Outcome.append_def]

theorem analyzeFile?_isNone (w : Workspace) (e : Engine) (p : Segments) :
    (w.analyzeFile? e p).isNone = (p.language?.isNone || (w.content? p).isNone) := by
  unfold analyzeFile?
  cases p.language? <;> cases w.content? p <;> rfl

end Workspace

theorem analysis_independent :
    (∀ (settings : Settings) (limit : Int) (probe : String → Bool),
      (∀ r, ∃ c, Checker.build r (settings r).options = .ok c) →
      ∃ every, Detector.build settings (Rule.all.map Rule.id) = .ok every ∧
        ∀ ids : List String, ids ≠ [] → (∀ id ∈ ids, ∃ r : Rule, r.id = id) →
          ∃ chosen, Detector.build settings ids = .ok chosen ∧ ∀ path root,
            Engine.analyzeTree ⟨chosen, limit, probe⟩ path root =
              (Engine.analyzeTree ⟨every, limit, probe⟩ path root).restrict ids) ∧
    ∀ (w : Workspace) (e : Engine) (files : List Segments),
      w.analyzeAll e files =
        (⟨(files.filterMap (w.analyzeFile? e)).flatMap (·.diagnostics),
          (files.filterMap (w.analyzeFile? e)).flatMap (·.stopped)⟩,
         files.filter fun p => p.language?.isNone || (w.content? p).isNone) := by
  constructor
  · intro settings limit probe constructible
    choose checkerOf built using constructible
    have hevery : Detector.build settings (Rule.all.map Rule.id) = _ :=
      Detector.build_eq_ok built (by decide) fun id hid => by
        obtain ⟨r, -, rfl⟩ := List.mem_map.mp hid
        exact ⟨r, rfl⟩
    have hall : Rule.all.filter (fun r => r.id ∈ Rule.all.map Rule.id) = Rule.all :=
      List.filter_eq_self.mpr fun r hr => decide_eq_true (List.mem_map_of_mem hr)
    rw [hall] at hevery
    refine ⟨_, hevery, fun ids hne hids => ⟨_, Detector.build_eq_ok built hne hids, ?_⟩⟩
    intro path root
    -- restricting what all detectors find is running the restricted list of detectors
    rw [Engine.analyzeTree, Engine.analyzeTree, Engine.restrict_runAll,
      Detector.filter_detectors built]
    refine Engine.runAll_of_probe ?_ _ _
    rfl
  · intro w e files
    rw [Workspace.analyzeAll_eq]
    simp only [Workspace.analyzeFile?_isNone]

def unsettledFile : ParseTree :=
  let named (type : String) (field : Option String) (start stop : Nat) (cs : List ParseTree) :
      ParseTree := .node ⟨type, start, stop, true, field⟩ cs
  named "program" none 0 4 [
    named "class_declaration" none 0 1 [
      named "identifier" (some "name") 0 1 [],
      named "class_body" (some "body") 0 0
        (List.replicate 6 (named "method_definition" none 0 0 []))],
    named "lexical_declaration" none 1 3 [
      named "variable_declarator" none 3 4 [named "identifier" (some "name") 3 4 []]]]

theorem analysis_of_unsettledFile :
    (∀ r, ∃ c, Checker.build r (Settings.default r).options = .ok c) ∧
    ∃ every chosen,
      Detector.build .default (Rule.all.map Rule.id) = .ok every ∧
      Detector.build .default ["naming-conventions", "srp-violation", "naming-conventions"] =
        .ok chosen ∧
      let root := SyntaxTree.ofParse (Text.Utf8.encode "a  x") unsettledFile
      let part := Engine.analyzeTree ⟨chosen, 500, fun _ => false⟩ "a.js" root
      part = (Engine.analyzeTree ⟨every, 500, fun _ => false⟩ "a.js" root).restrict
        ["naming-conventions", "srp-violation", "naming-conventions"] ∧
      part.diagnostics.map (·.message.id) = ["tooManyMethods", "classCase"] ∧
      part.stopped = [.naming] := by
  have constructible : ∀ r, ∃ c, Checker.build r (Settings.default r).options = .ok c := by
    intro r
    obtain ⟨c, hc, -⟩ := Checker.build_defaults r
    exact ⟨c, hc⟩
  obtain ⟨every, hevery, hids⟩ := analysis_independent.1 .default 500 (fun _ => false) constructible
  obtain ⟨chosen, hchosen, hpart⟩ :=
    hids ["naming-conventions", "srp-violation", "naming-conventions"] (by decide) fun id hid => by
      simp only [List.mem_cons, List.not_mem_nil, or_false] at hid
      rcases hid with rfl | rfl | rfl
      · exact ⟨.naming, rfl⟩
      · exact ⟨.responsibility, rfl⟩
      · exact ⟨.naming, rfl⟩
  refine ⟨constructible, every, chosen, hevery, hchosen, hpart _ _, ?_⟩
  have hbuilt : Detector.build .default
      ["naming-conventions", "srp-violation", "naming-conventions"] =
      .ok [⟨.responsibility ⟨50, 10, 10, 5⟩, .warning⟩,
        ⟨.naming ⟨true, true, true, true⟩, .warning⟩] := by rfl
  obtain rfl := Except.ok.inj (hbuilt.symm.trans hchosen)
  constructor <;> decide +kernel

end DesignLint
