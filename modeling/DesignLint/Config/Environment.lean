import DesignLint.Config.Error
import DesignLint.Text.Blank
import DesignLint.Text.Uppercase
import DesignLint.Text.WholeNumber

namespace DesignLint

abbrev Environment := Assoc String

namespace Environment

def readLine? (line : List Char) : Option (String × String) :=
  let line := Text.trim line
  if line.isEmpty ∨ line.head? = some '#' then none
  else
    let key := Text.upTo '=' line
    if key.length < line.length then
      some (String.ofList (Text.trim key), String.ofList (Text.trim (line.drop (key.length + 1))))
    else none

def ofText (text : String) : Environment :=
  ((Text.split '\n' text.toList).filterMap readLine?).foldl (fun e (k, v) => Assoc.put k v e) []

def completedBy (e file : Environment) : Environment :=
  file.foldl (fun e (k, v) => if (Assoc.get? k e).isSome then e else Assoc.put k v e) e

def rulesFile (e : Environment) : String :=
  (Assoc.get? "SOLIDLINT_CONFIG" e).getD ".solidlint.json"

def logLevel (e : Environment) : String :=
  Text.uppered ((Assoc.get? "SOLIDLINT_LOG_LEVEL" e).getD "WARNING")

def defaultDepth : Int := 500

def maxDepth (e : Environment) : Except ConfigError Int :=
  match Assoc.get? "SOLIDLINT_MAX_DEPTH" e with
  | none => .ok defaultDepth
  | some raw =>
    match Text.wholeNumber? raw.toList with
    | none => .error (.badDepth raw)
    | some n => if n < 1 then .error (.nonPositiveDepth n) else .ok n

end Environment

end DesignLint
