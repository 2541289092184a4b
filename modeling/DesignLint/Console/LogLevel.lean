import DesignLint.Config.Error
import DesignLint.Text.Uppercase

namespace DesignLint

inductive LogLevel where
  | notset
  | debug
  | info
  | warning
  | error
  | critical
deriving DecidableEq, Repr

namespace LogLevel

def rank : LogLevel → Nat
  | notset => 0
  | debug => 10
  | info => 20
  | warning => 30
  | error => 40
  | critical => 50

def names : List (String × LogLevel) := [
  ("CRITICAL", critical), ("FATAL", critical), ("ERROR", error), ("WARNING", warning),
  ("WARN", warning), ("INFO", info), ("DEBUG", debug), ("NOTSET", notset)]

def named (name : String) : Except ConfigError LogLevel :=
  match names.lookup (Text.uppered name) with
  | some level => .ok level
  | none => .error (.unknownLevel name)

end LogLevel

end DesignLint
