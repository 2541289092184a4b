import DesignLint.Config.Error
import DesignLint.Glob
import DesignLint.Path.Lexical
import DesignLint.Trial

namespace DesignLint

structure Layer where
  name : String
  level : Int
  patterns : List Value

namespace Layer

def ofEntry (name : String) (entry : Value) : Except ConfigError Layer :=
  match entry with
  | .table fields =>
    match Assoc.get? "patterns" fields, Assoc.get? "level" fields with
    | some (.list patterns), some (.int level) => .ok ⟨name, level, patterns⟩
    | _, _ => .error (.badLayer name)
  | _ => .error (.badLayer name)

def ofTable (entries : Fields) : Except ConfigError (List Layer) := do
  let layers ← entries.mapM fun e => ofEntry e.1 e.2
  return layers.mergeSort fun a b => decide (a.level ≤ b.level)

end Layer

structure PathClassifier where
  layers : List Layer := []
  aliases : Assoc String := []

namespace PathClassifier

def cleanAlias (s : String) : String :=
  String.ofList (Text.dropEndWhile (· == '/') (Text.replaceAll ['/', '*'] [] s.toList))

def addAlias (aliases : Assoc String) (short target : String) : Assoc String :=
  if cleanAlias short = "" then aliases
  else Assoc.put (cleanAlias short) (cleanAlias target) aliases

def aliasesOf (entries : Assoc String) : Assoc String :=
  entries.foldl (fun aliases e => addAlias aliases e.1 e.2) []

def aliasTexts : Fields → Except ConfigError (Assoc String)
  | [] => .ok []
  | (short, .text target) :: rest => (aliasTexts rest).map ((short, target) :: ·)
  | _ :: _ => .error .aliasTarget

def build (layers : List Layer) (aliases : Fields) : Except ConfigError PathClassifier :=
  if (layers.map (·.level)).Nodup then
    (aliasTexts aliases).map fun entries => ⟨layers, aliasesOf entries⟩
  else .error .repeatedLevel

def matchesAny (path : List Char) (patterns : List Value) : Trial Bool :=
  Trial.any (fun p => p.asText.map fun g => Glob.matchesPath path g.toList) patterns

def «matches» (path : String) (patterns : List Value) : Trial Bool :=
  matchesAny (Path.comparable path.toList) patterns

def aliasFor (c : PathClassifier) (path : String) : Option (String × String) :=
  c.aliases.find? fun e => path = e.1 || (e.1.toList ++ ['/']).isPrefixOf path.toList

def resolveAlias (c : PathClassifier) (path : String) : String :=
  match c.aliasFor path with
  | none => path
  | some (short, target) =>
    let rest := (path.toList.drop short.toList.length).dropWhile (· == '/')
    if rest.isEmpty then target
    else if target = "" then String.ofList rest
    else target ++ "/" ++ String.ofList rest

def classify (c : PathClassifier) (path : String) : Trial (Option Layer) :=
  if path = "" then .ok none
  else
    let target := Path.comparable (c.resolveAlias path).toList
    Trial.find? (fun l => matchesAny target l.patterns) c.layers

def nextLayer (c : PathClassifier) (l : Layer) : Option Layer :=
  (c.layers.filter fun o => decide (l.level < o.level)).foldl (fun best o =>
    match best with
    | none => some o
    | some b => if o.level < b.level then some o else some b) none

def isRelative (path : String) : Bool :=
  Text.startsWith path "./" || Text.startsWith path "../" || path = "." || path = ".."

def isExternal (c : PathClassifier) (path : String) : Bool :=
  !isRelative path && !Path.isAbsolute (Path.slashed path.toList) && (c.aliasFor path).isNone

def resolveImport (c : PathClassifier) (path importer : String) : String :=
  if (c.aliasFor path).isSome then c.resolveAlias path
  else if c.isExternal path then path
  else if Path.isAbsolute path.toList then path
  else
    let dir := Path.directory (Path.slashed importer.toList)
    String.ofList (Path.normal (Path.join dir path.toList))

end PathClassifier

end DesignLint
