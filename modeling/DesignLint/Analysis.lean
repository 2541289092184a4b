import DesignLint.Path.Segments
import DesignLint.Rule.Catalog
import DesignLint.SyntaxTree.Fold

namespace DesignLint

structure SourceFile where
  source : Source
  tree : ParseTree

structure Outcome where
  diagnostics : List Diagnostic := []
  stopped : List Rule := []

namespace Outcome

def append (a b : Outcome) : Outcome :=
  ⟨a.diagnostics ++ b.diagnostics, a.stopped ++ b.stopped⟩

instance : Append Outcome := ⟨append⟩

def ofFindings (r : Rule) (f : Findings) : Outcome :=
  ⟨f.diagnostics, if f.stopped.isSome then [r] else []⟩

def summary (diagnostics : List Diagnostic) : List (Severity × Nat) :=
  Severity.all.map fun s => (s, diagnostics.countP fun d => d.severity = s)

end Outcome

structure Engine where
  detectors : List Detector
  limit : Int
  probe : String → Bool

namespace Engine

def runAll (e : Engine) (c : Context) : List Detector → Outcome
  | [] => {}
  | d :: rest => Outcome.ofFindings d.rule (d.check e.probe c) ++ e.runAll c rest

def analyzeTree (e : Engine) (path : String) (root : SyntaxTree) : Outcome :=
  e.runAll (Context.collect path e.limit root) e.detectors

def analyze (e : Engine) (path : String) (f : SourceFile) : Outcome :=
  e.analyzeTree path (SyntaxTree.ofParse f.source f.tree)

def analyzeAs (e : Engine) (language : String) (path : String) (f : SourceFile) :
    Except ConfigError Outcome :=
  if language ≠ "" then (Language.named language).map fun _ => e.analyze path f
  else match (Segments.read path).language? with
    | some _ => .ok (e.analyze path f)
    | none => .error (.unsupportedFile path)

end Engine

end DesignLint
