import DesignLint.Proofs.Analysis.Independence
import DesignLint.Proofs.SyntaxTree.Fields
import Mathlib.Data.Option.Basic

namespace DesignLint

theorem ParseTree.namedChildren_ne_nil_of_required {source : Source} {t : ParseTree}
    (hk : t.kind source = .importDecl) (ht : t.type = "call_expression") :
    ∃ args, t.fieldChild? "arguments" = some args ∧ args.namedChildren ≠ [] := by
  obtain ⟨args, arg, hargs, hone, -⟩ := literal_of_required hk ht
  refine ⟨args, hargs, fun hempty => ?_⟩
  simp [hempty] at hone

theorem SyntaxTree.name_of_identifier {source : Source} {t : ParseTree} {n : Node}
    (hn : n ∈ (ofParse source t).preorder) (hk : n.kind = .identifier) : n.name = some n.text := by
  obtain ⟨u, rfl⟩ := Outline.exists_nodeOf_of_mem hn
  have hu : u.kind source = .identifier := hk
  simp [nodeOf, ParseTree.name?, hu]

theorem Site.name_of_link {source : Source} {t : ParseTree} {limit : Int} {s n : Site} {role : Role}
    (hs : s ∈ (SyntaxTree.ofParse source t).visited limit) (hn : s.link role = some n)
    (hk : n.kind = .identifier) : n.code.name = some n.code.text := by
  obtain ⟨path, -, hfollow⟩ := Option.bind_eq_some_iff.mp hn
  -- a link may lead below the depth of the visit, so the name is one of the whole tree
  have hbelow : n.tree.preorder ⊆ (SyntaxTree.ofParse source t).preorder :=
    List.Subset.trans (Tree.preorder_subset_of_follow hfollow) (Tree.preorder_subset_of_visited hs)
  exact SyntaxTree.name_of_identifier (hbelow (Tree.label_mem_preorder n.tree)) hk

theorem Declaration.value_of_mem_objectMethods {s m : Site} (h : m ∈ objectMethods s)
    (hk : m.kind = .pair) : (m.code.link .value).isSome := by
  have hm := (List.mem_filter.mp h).2
  rw [Method.isObjectMethod, hk] at hm
  cases hv : m.code.link .value with
  | none => simp [hv] at hm
  | some v => rfl

structure SourceFile.Answers (f : SourceFile) (path : String) (limit : Int) : Prop where
  arguments : ∀ t ∈ f.tree.subtrees, ParseTree.kind f.source t = .importDecl →
    ParseTree.type t = "call_expression" →
      ∃ args, ParseTree.fieldChild? t "arguments" = some args ∧ args.namedChildren ≠ []
  names : ∀ s ∈ (SyntaxTree.ofParse f.source f.tree).visited limit, ∀ n : Site,
    Site.link s .name = some n → n.kind = .identifier → n.code.name = some n.code.text
  values : ∀ s ∈ (SyntaxTree.ofParse f.source f.tree).visited limit,
    ∀ m ∈ Declaration.objectMethods s, m.kind = .pair → (m.code.link .value).isSome
  declarations : ∀ s ∈ (SyntaxTree.ofParse f.source f.tree).visited limit, Site.isClassLike s →
    ((Context.collect path limit (SyntaxTree.ofParse f.source f.tree)).declarationAt? s).isSome

theorem SourceFile.answers (f : SourceFile) (path : String) (limit : Int) :
    f.Answers path limit where
  arguments _ _ := ParseTree.namedChildren_ne_nil_of_required
  names _ hs _ := Site.name_of_link hs
  values _ _ _ := Declaration.value_of_mem_objectMethods
  declarations s hs hc := by
    rw [Context.declarationAt?_of_visited hs hc]
    rfl

theorem Engine.stopped_runAll (e : Engine) (c : Context) (ds : List Detector) :
    (e.runAll c ds).stopped =
      (ds.filter fun d => (d.check e.probe c).stopped.isSome).map Detector.rule := by
  induction ds with
  | nil => rfl
  | cons d rest ih =>
    rw [runAll, Outcome.append_def, Outcome.ofFindings, ih]
    cases h : (d.check e.probe c).stopped <;> simp [h]

theorem Naming.isSome_stopped_collect (r : Reporter) (o : Settings) (path : String) (limit : Int)
    (root : SyntaxTree) :
    (check r o (Context.collect path limit root)).stopped.isSome ↔
      ∃ s ∈ root.visited limit, Site.LacksKeyword s := by
  rw [isSome_stopped_check, Context.sites_collect]
  constructor
  · rintro ⟨s, hs, h⟩
    exact ⟨s, (List.mem_filter.mp hs).1, h⟩
  · rintro ⟨s, hs, h⟩
    refine ⟨s, List.mem_filter.mpr ⟨hs, ?_⟩, h⟩
    simp [h.1]

theorem Detector.build_default :
    ∃ ds, build .default [] = .ok ds ∧ ds.map rule = Rule.all.filter (· ≠ .naming) ∧
      ∀ d ∈ ds, d.checker.Fits := by
  choose checkerOf built fits using Checker.build_defaults
  have hselected : Rule.all.filter (isSelected .default []) = Rule.all.filter (· ≠ .naming) := rfl
  have hbuilt : ∀ r, Checker.build r (Settings.default r).options = .ok (checkerOf r) := built
  refine ⟨_, buildFrom_eq_ok hbuilt _, ?_, ?_⟩
  · rw [hselected, List.map_map]
    refine (List.map_congr_left fun r _ => ?_).trans (List.map_id _)
    exact Checker.rule_build (built r)
  · intro d hd
    obtain ⟨r, -, rfl⟩ := List.mem_map.mp hd
    exact fits r

theorem analysis_completes (f : SourceFile) (path : String) (limit : Int)
    (probe : String → Bool) :
    f.Answers path limit ∧
    (∃ ds, Detector.build .default [] = .ok ds ∧
      ds.map Detector.rule = Rule.all.filter (· ≠ .naming) ∧
      (Engine.analyze ⟨ds, limit, probe⟩ path f).stopped = []) ∧
    ∀ (o : Naming.Settings) (severity : Severity),
      .naming ∈ (Engine.analyze ⟨[⟨.naming o, severity⟩], limit, probe⟩ path f).stopped ↔
        ∃ s ∈ (SyntaxTree.ofParse f.source f.tree).visited limit, Site.LacksKeyword s := by
  refine ⟨f.answers path limit, ?_, ?_⟩
  · obtain ⟨ds, hbuild, hrules, hfits⟩ := Detector.build_default
    refine ⟨ds, hbuild, hrules, ?_⟩
    rw [Engine.analyze, Engine.analyzeTree, Engine.stopped_runAll, List.map_eq_nil_iff,
      List.filter_eq_nil_iff]
    intro d hd
    have hr : d.rule ≠ .naming := by
      have hmem := List.mem_map_of_mem (f := Detector.rule) hd
      rw [hrules] at hmem
      simpa using (List.mem_filter.mp hmem).2
    simp [Detector.stopped_check (hfits d hd) hr]
  · intro o severity
    have hstops : ((⟨.naming o, severity⟩ : Detector).check probe (Context.collect path limit
        (SyntaxTree.ofParse f.source f.tree))).stopped.isSome ↔ _ :=
      Naming.isSome_stopped_collect _ o path limit (SyntaxTree.ofParse f.source f.tree)
    rw [Engine.analyze, Engine.analyzeTree, Engine.stopped_runAll, ← hstops]
    simp [Detector.rule, Checker.rule]

end DesignLint
