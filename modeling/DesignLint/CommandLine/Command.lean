import DesignLint.CommandLine.Options
import DesignLint.Path.Segments
import DesignLint.Text.WholeNumber

namespace DesignLint

inductive ReportFormat where
  | table
  | json
deriving DecidableEq, Repr

def ReportFormat.named? : String → Option ReportFormat
  | "table" => some .table
  | "json" => some .json
  | _ => none

structure CheckRequest where
  paths : List String := []
  config : Option String := none
  format : ReportFormat := .table
  only : List String := []
  maxDepth : Option Int := none
  verbose : Bool := false

inductive Command where
  | help
  | version
  | rules
  | check (request : CheckRequest)
  | unusable (fault : PathFault)

namespace Command

inductive GlobalOption where
  | help
  | version
deriving DecidableEq, Repr

inductive CheckOption where
  | help
  | config
  | format
  | rule
  | maxDepth
  | verbose
deriving DecidableEq, Repr

def globalForms : List (OptionForm GlobalOption) := [⟨.help, "--help", none, false⟩,
  ⟨.version, "--version", none, false⟩]

def rulesForms : List (OptionForm Unit) := [⟨(), "--help", none, false⟩]

def checkForms : List (OptionForm CheckOption) := [
  ⟨.help, "--help", none, false⟩,
  ⟨.config, "--config", some 'c', true⟩,
  ⟨.format, "--format", some 'f', true⟩,
  ⟨.rule, "--rule", some 'r', true⟩,
  ⟨.maxDepth, "--max-depth", none, true⟩,
  ⟨.verbose, "--verbose", some 'v', false⟩]

def ofGlobal? (l : WordList GlobalOption) : Option Command :=
  match l.used with
  | (.help, _) :: _ => some .help
  | (.version, _) :: _ => some .version
  | [] => none

def readFormat? (l : WordList CheckOption) : Option ReportFormat :=
  match l.valueOf? .format with
  | none => some .table
  | some word => ReportFormat.named? word

def readDepth? (l : WordList CheckOption) : Option (Option Int) :=
  match l.valueOf? .maxDepth with
  | none => some none
  | some word =>
    match Text.wholeNumber? word.toList with
    | none => none
    | some n => if n < 1 then none else some (some n)

def checkOption (l : WordList CheckOption) : CheckOption → Option (Option PathFault)
  | .config => some ((l.valueOf? .config).bind PathFault.of?)
  | .format => (readFormat? l).map fun _ => none
  | .maxDepth => (readDepth? l).map fun _ => none
  | _ => some none

def firstFault? (l : WordList CheckOption) : List CheckOption → Option (Option PathFault)
  | [] => some (l.others.findSome? PathFault.of?)
  | option :: rest =>
    match checkOption l option with
    | some none => firstFault? l rest
    | outcome => outcome

def readCheck? (words : List String) : Option Command := do
  let l ← OptionForm.read checkForms true words
  if l.uses .help then return help
  match ← firstFault? l (l.used.map Prod.fst) with
  | some fault => return unusable fault
  | none =>
    let format ← readFormat? l
    let maxDepth ← readDepth? l
    return check {
      paths := l.others
      config := l.valueOf? .config
      format
      only := l.valuesOf .rule
      maxDepth
      verbose := l.uses .verbose }

def readRules? (words : List String) : Option Command := do
  let l ← OptionForm.read rulesForms true words
  if l.uses () then return help
  else if l.others.isEmpty then return rules
  else none

def readNamed? (words : List String) : Option Command :=
  match words with
  | "check" :: rest => readCheck? rest
  | "rules" :: rest => readRules? rest
  | words => (OptionForm.read globalForms false words).bind ofGlobal?

def read? (words : List String) : Option Command := do
  let l ← OptionForm.read globalForms false words
  match ofGlobal? l with
  | some command => return command
  | none => readNamed? l.others

end Command

end DesignLint
