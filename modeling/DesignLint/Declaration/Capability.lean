import DesignLint.Text.Lowercase
import DesignLint.Text.Search

namespace DesignLint

inductive Capability where
  | data
  | validation
  | transformation
  | communication
  | calculation
  | ui
  | lifecycle
  | utility
  | security
  | navigation
  | general
deriving DecidableEq, Repr

namespace Capability

def name : Capability → String
  | data => "data"
  | validation => "validation"
  | transformation => "transformation"
  | communication => "communication"
  | calculation => "calculation"
  | ui => "ui"
  | lifecycle => "lifecycle"
  | utility => "utility"
  | security => "security"
  | navigation => "navigation"
  | general => "general"

def keywords : List (Capability × List String) := [
  (data, ["get", "set", "read", "write", "load", "save", "fetch", "store", "find", "select",
    "insert", "update", "delete"]),
  (validation, ["validate", "verify", "check", "confirm", "ensure", "assert", "test", "is", "has",
    "can"]),
  (transformation, ["transform", "convert", "parse", "format", "serialize", "deserialize", "map",
    "filter", "reduce"]),
  (communication, ["send", "receive", "notify", "emit", "broadcast", "publish", "subscribe",
    "connect", "disconnect"]),
  (calculation, ["calculate", "compute", "process", "analyze", "sum", "count", "average", "min",
    "max"]),
  (ui, ["render", "display", "show", "hide", "update", "refresh", "draw", "paint", "animate"]),
  (lifecycle, ["init", "start", "stop", "destroy", "create", "delete", "dispose", "cleanup",
    "setup", "teardown"]),
  (utility, ["log", "debug", "trace", "measure", "monitor", "profile", "benchmark", "clone",
    "copy"]),
  (security, ["authenticate", "authorize", "encrypt", "decrypt", "hash", "sign", "verify",
    "sanitize"]),
  (navigation, ["navigate", "redirect", "route", "go", "back", "forward", "next", "previous"])]

def ofName (method : String) : Capability :=
  let word := Text.lower method.toList
  match keywords.find? fun e => e.2.any fun k => Text.occurs k.toList word with
  | some (capability, _) => capability
  | none => general

end Capability

def isInterfaceName (name : String) : Bool :=
  (match name.toList with
    | 'I' :: c :: _ => c.isUpper
    | _ => false) ||
  ["Interface", "Contract", "Protocol", "Spec"].any (Text.endsWith name ·)

end DesignLint
