import DesignLint.Rule.Architecture
import DesignLint.Rule.Inversion
import DesignLint.Rule.Naming
import DesignLint.Rule.OpenClosed
import DesignLint.Rule.Repository
import DesignLint.Rule.Responsibility
import DesignLint.Rule.Segregation
import DesignLint.Rule.Substitution

namespace DesignLint

inductive Rule where
  | responsibility
  | openClosed
  | substitution
  | segregation
  | inversion
  | architecture
  | repository
  | naming
deriving DecidableEq, Repr

namespace Rule

def all : List Rule :=
  [responsibility, openClosed, substitution, segregation, inversion, architecture, repository,
   naming]

theorem mem_all (r : Rule) : r ∈ all := by
  cases r <;> decide

def id : Rule → String
  | responsibility => "srp-violation"
  | openClosed => "ocp-violation"
  | substitution => "lsp-substitution"
  | segregation => "isp-violation"
  | inversion => "dip-violation"
  | architecture => "clean-architecture"
  | repository => "repository-architecture"
  | naming => "naming-conventions"

def description : Rule → String
  | responsibility => "Enforce the Single Responsibility Principle in functions and classes"
  | openClosed =>
    "Enforce the Open/Closed Principle: open for extension, closed for modification"
  | substitution => "Enforce the Liskov Substitution Principle for subclass overrides"
  | segregation => "Enforce the Interface Segregation Principle"
  | inversion => "Enforce dependency inversion by preventing direct concrete dependency imports"
  | architecture =>
    "Enforce clean architecture principles including dependency rule, layer isolation and " ++
      "boundary contracts"
  | repository => "Enforce repository architecture pattern"
  | naming =>
    "Enforce naming conventions: UPPER_CASE constants, camelCase variables and functions, " ++
      "PascalCase classes"

def enabledByDefault : Rule → Bool
  | naming => false
  | _ => true

def schema : Rule → Schema
  | responsibility => Responsibility.schema
  | openClosed => OpenClosed.schema
  | substitution => Substitution.schema
  | segregation => Segregation.schema
  | inversion => Inversion.schema
  | architecture => Architecture.schema
  | repository => Repository.schema
  | naming => Naming.schema

def named? (id : String) : Option Rule :=
  all.find? fun r => r.id = id

theorem named?_id (r : Rule) : named? r.id = some r := by
  cases r <;> decide +kernel

def loadOptions (r : Rule) (given : Value) : Except ConfigError Fields :=
  match r with
  | repository => (r.schema.load given).bind Repository.checkOptions
  | r => r.schema.load given

end Rule

structure Setting where
  enabled : Bool
  severity : Severity
  options : Fields

abbrev Settings := Rule → Setting

namespace Settings

def default : Settings :=
  fun r => ⟨r.enabledByDefault, .warning, r.schema.defaults⟩

def set (s : Settings) (r : Rule) (setting : Setting) : Settings :=
  fun q => if q = r then setting else s q

def entryKeys : List String := ["enabled", "severity", "options"]

def entryFields (rule : String) : Value → Except ConfigError Fields
  | .bool b => .ok [("enabled", .bool b)]
  | .text s =>
    .ok [("enabled", .bool (s != "off")),
      ("severity", .text (if s = "off" then "warning" else s))]
  | .table fields => .ok fields
  | _ => .error (.badEntry rule)

def unknownKeys (known : List String) (fields : Fields) : List String :=
  (fields.keys.filter fun k => !known.contains k).mergeSort Text.precedes

def enabledOf (rule : String) (fields : Fields) : Except ConfigError Bool :=
  match Assoc.get? "enabled" fields with
  | some (.bool b) => .ok b
  | none => .ok true
  | some _ => .error (.badEnabled rule)

def severityOf (fields : Fields) : Except ConfigError Severity :=
  match Assoc.get? "severity" fields with
  | some v => Severity.ofValue v
  | none => .ok .warning

def readEntry (r : Rule) (entry : Value) : Except ConfigError Setting := do
  let fields ← entryFields r.id entry
  match unknownKeys entryKeys fields with
  | [] =>
    let enabled ← enabledOf r.id fields
    let severity ← severityOf fields
    let options ← r.loadOptions ((Assoc.get? "options" fields).getD .null)
    return ⟨enabled, severity, options⟩
  | unknown => throw (.unknownKeys r.id unknown)

def lay (s : Settings) : Fields → Except ConfigError Settings
  | [] => .ok s
  | (id, entry) :: rest =>
    match Rule.named? id with
    | none => .error (.unknownRule id)
    | some r =>
      match readEntry r entry with
      | .ok setting => (s.set r setting).lay rest
      | .error e => .error e

def read (v : Value) : Except ConfigError Settings :=
  match v with
  | .table entries => default.lay entries
  | v => if v.isPresent then .error .notTable else .ok default

def keep (s : Settings) (rules : List String) : Settings :=
  fun r => if rules.contains r.id then s r else default r

end Settings

inductive Checker where
  | responsibility (o : Responsibility.Limits)
  | openClosed (o : OpenClosed.Settings)
  | substitution (o : Substitution.Settings)
  | segregation (o : Segregation.Settings)
  | inversion (o : Inversion.Settings)
  | architecture (o : Architecture.Settings)
  | repository (o : Repository.Settings)
  | naming (o : Naming.Settings)

namespace Checker

def rule : Checker → Rule
  | responsibility _ => .responsibility
  | openClosed _ => .openClosed
  | substitution _ => .substitution
  | segregation _ => .segregation
  | inversion _ => .inversion
  | architecture _ => .architecture
  | repository _ => .repository
  | naming _ => .naming

def build (r : Rule) (o : Fields) : Except ConfigError Checker :=
  match r with
  | .responsibility => .ok (responsibility (.ofOptions o))
  | .openClosed => .ok (openClosed (.ofOptions o))
  | .substitution => .ok (substitution (.ofOptions o))
  | .segregation => .ok (segregation (.ofOptions o))
  | .inversion => (Inversion.Settings.ofOptions o).map inversion
  | .architecture => (Architecture.Settings.ofOptions o).map architecture
  | .repository => .ok (repository (.ofOptions o))
  | .naming => .ok (naming (.ofOptions o))

end Checker

structure Detector where
  checker : Checker
  severity : Severity

namespace Detector

def rule (d : Detector) : Rule := d.checker.rule

def check (d : Detector) (probe : String → Bool) (c : Context) : Findings :=
  let r : Reporter := ⟨d.rule.id, d.severity, c.path⟩
  match d.checker with
  | .responsibility o => Responsibility.check r o c
  | .openClosed o => OpenClosed.check r o c
  | .substitution o => Substitution.check r o c
  | .segregation o => Segregation.check r o c
  | .inversion o => Inversion.check r o probe c
  | .architecture o => Architecture.check r o c
  | .repository o => Repository.check r o c
  | .naming o => Naming.check r o c

def isSelected (settings : Settings) (only : List String) (r : Rule) : Bool :=
  if only.isEmpty then (settings r).enabled else only.contains r.id

def buildFrom (settings : Settings) : List Rule → Except ConfigError (List Detector)
  | [] => .ok []
  | r :: rest =>
    match Checker.build r (settings r).options with
    | .error e => .error e
    | .ok checker => (buildFrom settings rest).map (⟨checker, (settings r).severity⟩ :: ·)

def build (settings : Settings) (only : List String) : Except ConfigError (List Detector) :=
  match only.find? fun id => (Rule.named? id).isNone with
  | some id => .error (.unknownRule id)
  | none => buildFrom settings (Rule.all.filter (isSelected settings only))

theorem find?_unknown_eq_none_iff (only : List String) :
    (only.find? fun id => (Rule.named? id).isNone) = none ↔ ∀ id ∈ only, ∃ r : Rule, r.id = id := by
  rw [List.find?_eq_none]
  refine ⟨fun h id hid => ?_, fun h id hid => ?_⟩
  · cases hr : Rule.named? id with
    | none => exact absurd (by simp [hr]) (h id hid)
    | some r => exact ⟨r, by simpa using List.find?_some hr⟩
  · obtain ⟨r, rfl⟩ := h id hid
    simp [Rule.named?_id]

end Detector

end DesignLint
