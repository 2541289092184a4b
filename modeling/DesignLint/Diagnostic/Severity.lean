import DesignLint.Config.Error
import DesignLint.Text.Lowercase

namespace DesignLint

inductive Severity where
  | error
  | warning
  | info
deriving DecidableEq, Repr

namespace Severity

def text : Severity → String
  | error => "error"
  | warning => "warning"
  | info => "info"

def all : List Severity := [error, warning, info]

def named? (word : String) : Option Severity :=
  all.find? fun s => s.text = Text.lowered word

def ofValue (v : Value) : Except ConfigError Severity :=
  match named? v.plain with
  | some s => .ok s
  | none => .error (.unknownSeverity v)

end Severity

end DesignLint
