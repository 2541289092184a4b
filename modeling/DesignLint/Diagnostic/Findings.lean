import DesignLint.Diagnostic.Basic
import DesignLint.Trial

namespace DesignLint

structure Findings where
  diagnostics : List Diagnostic := []
  stopped : Option Misfit := none

namespace Findings

def none : Findings := {}

def one (d : Diagnostic) : Findings := { diagnostics := [d] }

def stop (m : Misfit) : Findings := { stopped := some m }

def andThen (a b : Findings) : Findings :=
  match a.stopped with
  | some _ => a
  | .none => ⟨a.diagnostics ++ b.diagnostics, b.stopped⟩

instance : Append Findings := ⟨andThen⟩

def each {α : Type} (search : α → Findings) : List α → Findings
  | [] => none
  | a :: rest => search a ++ each search rest

def given {α : Type} (t : Trial α) (search : α → Findings) : Findings :=
  match t with
  | .ok a => search a
  | .error m => stop m

def when (condition : Bool) (search : Findings) : Findings :=
  if condition then search else none

theorem append_def (a b : Findings) : a ++ b = a.andThen b := rfl

@[simp] theorem none_append (a : Findings) : none ++ a = a := by
  simp [append_def, andThen, none]

@[simp] theorem append_none (a : Findings) : a ++ none = a := by
  obtain ⟨ds, s⟩ := a
  cases s <;> simp [append_def, andThen, none]

theorem append_assoc (a b c : Findings) : a ++ b ++ c = a ++ (b ++ c) := by
  obtain ⟨da, sa⟩ := a
  obtain ⟨db, sb⟩ := b
  cases sa with
  | some m => simp [append_def, andThen]
  | none => cases sb <;> simp [append_def, andThen]

end Findings

structure Reporter where
  rule : String
  severity : Severity
  file : String

namespace Reporter

def report (r : Reporter) (m : Message) (s : Site) (data : Fields) : Findings :=
  .one ⟨r.rule, m, .ofSite r.file s, r.severity, data⟩

end Reporter

end DesignLint
