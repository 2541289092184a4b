import DesignLint.CommandLine.Command
import DesignLint.Console.LogLevel
import DesignLint.Console.Markup
import DesignLint.Value.Printer
import DesignLint.Workspace

namespace DesignLint

structure Grid where
  title : String
  columns : List String
  rows : List (List String)
deriving DecidableEq, Repr

inductive Shown where
  | text (s : String)
  | grid (g : Grid)
deriving DecidableEq, Repr

inductive Breakdown where
  | uncheckedShape
  | nestedTooDeep
  | unusablePath (fault : PathFault)
deriving DecidableEq, Repr

structure Response where
  exitCode : Nat
  shown : List Shown := []
  output : String := ""
  breakdown : Option Breakdown := none

namespace Response

def broken (b : Breakdown) : Response := { exitCode := 1, breakdown := some b }

def ofMarkup : Shown → Shown
  | .text s => .text (Console.Markup.plain s)
  | .grid g => .grid { g with rows := g.rows.map (·.map Console.Markup.plain) }

def escaped (s : String) : String := String.ofList (Console.Markup.escape s.toList)

def fault (message : String) : Response :=
  { exitCode := 2, shown := [ofMarkup (.text ("[bold red]Error:[/bold red] " ++ escaped message))] }

def ofError (e : ConfigError) : Response :=
  match e.category with
  | .unchecked => broken .uncheckedShape
  | .tooDeep => broken .nestedTooDeep
  | _ => fault e.message

end Response

def versionLine : String := "solidlint 1.0.0\n"

def ruleGrid : Grid where
  title := "Available Rules"
  columns := ["Rule", "Default", "Description"]
  rows := Rule.all.map fun r =>
    [r.id, if r.enabledByDefault then "on" else "off", r.description]

structure CheckReport where
  files : Nat
  diagnostics : List Diagnostic

namespace CheckReport

def number (n : Nat) : String := Value.numeral (Int.ofNat n)

def count (r : CheckReport) (s : Severity) : Nat :=
  r.diagnostics.countP fun d => d.severity = s

def exitCode (r : CheckReport) : Nat :=
  if r.diagnostics.any (·.severity = .error) then 1 else 0

def styleOf : Severity → String
  | .error => "bold red"
  | .warning => "yellow"
  | .info => "blue"

def row (d : Diagnostic) : List String :=
  [Response.escaped d.location.text,
   "[" ++ styleOf d.severity ++ "]" ++ d.severity.text ++ "[/" ++ styleOf d.severity ++ "]",
   d.rule,
   Response.escaped (d.text?.getD "")]

def grid (r : CheckReport) : Grid where
  title := "Design Violations"
  columns := ["Location", "Severity", "Rule", "Message"]
  rows := r.diagnostics.map row

def closing (r : CheckReport) : String :=
  "\n[bold]" ++ number r.diagnostics.length ++ " problem(s)[/bold] in " ++ number r.files ++
    " file(s): " ++ number (r.count .error) ++ " error(s), " ++ number (r.count .warning) ++
    " warning(s), " ++ number (r.count .info) ++ " info"

def shown (r : CheckReport) : List Shown :=
  if r.diagnostics.isEmpty then
    [.text ("[bold green]✓ No problems found in " ++ number r.files ++ " file(s)[/bold green]")]
  else [.grid r.grid, .text r.closing]

def toValue (r : CheckReport) : Value :=
  .table [
    ("files", .int (Int.ofNat r.files)),
    ("summary", .table ((Outcome.summary r.diagnostics).map fun e =>
      (e.1.text, .int (Int.ofNat e.2)))),
    ("diagnostics", .list (r.diagnostics.map fun d => .table (d.toFields?.getD [])))]

def respond (r : CheckReport) : ReportFormat → Response
  | .json => { exitCode := r.exitCode, output := r.toValue.pretty ++ "\n" }
  | .table => { exitCode := r.exitCode, shown := r.shown.map Response.ofMarkup }

end CheckReport

end DesignLint
