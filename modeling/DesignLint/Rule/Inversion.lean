import DesignLint.Config.Schema
import DesignLint.Context
import DesignLint.Diagnostic.Findings
import DesignLint.Path.Layers
import DesignLint.Text.Word

namespace DesignLint.Inversion

structure Settings where
  concrete : List Value
  abstract : List Value
  allowedFiles : List Value
  skipExternal : Bool
  checkTypes : Bool
  suffixes : List Value
  abstractHeads : List Value
  mappings : Fields
  strict : Bool
  classifier : PathClassifier

def schema : Schema where
  owner := "DIPOptions"
  defaults := [
    ("concrete_patterns", Options.texts ["**/concrete/**", "**/impl/**", "**/implementations/**"]),
    ("abstract_patterns", Options.texts
      ["**/interfaces/**", "**/abstractions/**", "**/contracts/**"]),
    ("allowed_files", Options.texts
      ["**/di-container.js", "**/factory.js", "**/bootstrap.js", "**/index.js"]),
    ("exclude_external_modules", .bool true),
    ("check_typescript_types", .bool true),
    ("path_aliases", .table []),
    ("concrete_class_suffixes", Options.texts
      ["Impl", "Implementation", "Concrete", "Service", "Repository"]),
    ("abstract_class_prefixes", Options.texts ["I", "Abstract", "Base"]),
    ("custom_mappings", .table []),
    ("strict_mode", .bool false)]
  spellings := [("checkTypeScriptTypes", "check_typescript_types")]

def Settings.ofOptions (o : Fields) : Except ConfigError Settings :=
  (PathClassifier.build [] (Options.entries o "path_aliases")).map fun classifier =>
    { concrete := Options.items o "concrete_patterns"
      abstract := Options.items o "abstract_patterns"
      allowedFiles := Options.items o "allowed_files"
      skipExternal := Options.flag o "exclude_external_modules"
      checkTypes := Options.flag o "check_typescript_types"
      suffixes := Options.items o "concrete_class_suffixes"
      abstractHeads := Options.items o "abstract_class_prefixes"
      mappings := Options.entries o "custom_mappings"
      strict := Options.flag o "strict_mode"
      classifier }

def directConcreteDependency : Message :=
  ⟨"directConcreteDependency",
    ["Direct import of concrete implementation \"", slot "importPath", "\" violates DIP. Use ",
      "dependency injection or abstract interfaces instead."]⟩

def suggestAbstraction : Message :=
  ⟨"suggestAbstraction",
    ["Consider importing from \"", slot "suggestedPath", "\" instead of \"", slot "importPath",
     "\"."]⟩

def noAbstractionFound : Message :=
  ⟨"noAbstractionFound",
    ["No matching abstraction found for \"", slot "importPath", "\". Consider creating an ",
      "interface or using dependency injection."]⟩

def concreteClassImport : Message :=
  ⟨"concreteClassImport",
    ["Direct import of concrete class \"", slot "className", "\" violates DIP. Consider using an ",
      "interface or abstract class."]⟩

def typeScriptTypeImport : Message :=
  ⟨"typeScriptTypeImport",
    ["Import \"", slot "importPath", "\" appears to be a concrete type. Consider using an ",
      "interface or abstract type."]⟩

def concreteDirectories : List String := ["concrete", "impl", "implementations"]

def replaceAtEnd (needle new s : List Char) : List Char :=
  if needle.isSuffixOf s then s.take (s.length - needle.length) ++ new
  else if s.getLast? = some '\n' ∧ needle.isSuffixOf s.dropLast then
    s.take (s.length - 1 - needle.length) ++ new ++ ['\n']
  else s

def abstractDirectories (path : List Char) : List Char :=
  let inside := concreteDirectories.foldl (fun p d =>
    Text.replaceFirst ('/' :: d.toList ++ ['/']) "/interfaces/".toList p) path
  concreteDirectories.foldl (fun p d =>
    replaceAtEnd ('/' :: d.toList) "/interfaces".toList p) inside

def isExtension (s : List Char) : Bool :=
  match if s.getLast? = some '\n' then s.dropLast else s with
  | [] => true
  | '.' :: word => !word.isEmpty && word.all Text.isWord
  | _ => false

def stripSuffix (suffix : List Char) : List Char → List Char
  | [] => []
  | c :: cs =>
    if suffix.isPrefixOf (c :: cs) && isExtension ((c :: cs).drop suffix.length) then
      (c :: cs).drop suffix.length
    else c :: stripSuffix suffix cs

def stripSuffixes : List Value → List Char → Trial (List Char)
  | [], path => .ok path
  | suffix :: rest, path =>
    match suffix.asText with
    | .ok s => stripSuffixes rest (stripSuffix s.toList path)
    | .error m => .error m

def isThere (probe : String → Bool) (dir path : List Char) : Bool :=
  let target := String.ofList (Path.normal (Path.join dir path))
  ["", ".js", ".ts", ".tsx"].any fun extension => probe (target ++ extension)

def suggestion (o : Settings) (probe : String → Bool) (path importer : String) :
    Trial (Option Value) :=
  match (Assoc.get? path o.mappings).filter Value.isPresent with
  | some mapped => .ok (some mapped)
  | none =>
    (stripSuffixes o.suffixes (abstractDirectories (o.classifier.resolveAlias path).toList)).map
      fun suggested =>
        let dir := match Path.directory importer.toList with
          | [] => ['.']
          | dir => dir
        if isThere probe dir suggested && !suggested.isEmpty then
          some (.text (String.ofList suggested))
        else none

def isConcrete (o : Settings) (path : String) : Trial Bool :=
  PathClassifier.matches (o.classifier.resolveAlias path) o.concrete

def isAbstract (o : Settings) (path : String) : Trial Bool :=
  PathClassifier.matches (o.classifier.resolveAlias path) o.abstract

def isConcreteName (o : Settings) (name : String) : Trial Bool :=
  match Trial.any (fun v => v.asText.map (Text.endsWith name ·)) o.suffixes with
  | .ok true =>
    (Trial.any (fun v => v.asText.map (Text.startsWith name ·)) o.abstractHeads).map (!·)
  | other => other

def className (s : Specifier) : String :=
  if s.binding = .default then s.local else s.imported

def checkSpecifier (r : Reporter) (o : Settings) (site : Site) (s : Specifier) : Findings :=
  if s.binding = .namespace then .none
  else .given (isConcreteName o (className s)) fun concrete =>
    .when concrete
      (r.report concreteClassImport ((site.follow s.address).getD site)
        [("className", .text (className s))])

def suggest (r : Reporter) (target : Site) (path : String) (suggested : Value) : Findings :=
  r.report suggestAbstraction target [("importPath", .text path), ("suggestedPath", suggested)]

def checkTypeImport (r : Reporter) (o : Settings) (probe : String → Bool) (c : Context)
    (target : Site) (path : String) : Findings :=
  .given (isConcrete o path) fun concrete =>
    if !concrete then .none
    else .given (isAbstract o path) fun abstract =>
      if abstract then .none
      else .given (suggestion o probe path c.path) fun suggested =>
        r.report typeScriptTypeImport target [("importPath", .text path)] ++
        match suggested with
        | some s => suggest r target path s
        | none => .none

def reportConcrete (r : Reporter) (o : Settings) (target : Site) (path : String)
    (suggested : Option Value) : Findings :=
  r.report directConcreteDependency target [("importPath", .text path)] ++
  match suggested with
  | some s => suggest r target path s
  | none => .when o.strict (r.report noAbstractionFound target [("importPath", .text path)])

def checkValueImport (r : Reporter) (o : Settings) (probe : String → Bool) (c : Context)
    (site target : Site) (i : Import) : Findings :=
  let classes := .when (i.form = .statement && !i.typeOnly)
    (.each (checkSpecifier r o site) i.specifiers)
  .given (isConcrete o i.module) fun concrete =>
    if !concrete then classes
    else .given (isAbstract o i.module) fun abstract =>
      if abstract then .none
      else .given (suggestion o probe i.module c.path) fun suggested =>
        reportConcrete r o target i.module suggested ++ classes

def checkImport (r : Reporter) (o : Settings) (probe : String → Bool) (c : Context) (site : Site)
    (i : Import) : Findings :=
  if i.module = "" || (o.skipExternal && o.classifier.isExternal i.module) then .none
  else
    let target := (site.link .source).getD site
    if i.form = .statement && i.typeOnly && c.isTypeScript && o.checkTypes then
      checkTypeImport r o probe c target i.module
    else checkValueImport r o probe c site target i

def check (r : Reporter) (o : Settings) (probe : String → Bool) (c : Context) : Findings :=
  .given (PathClassifier.matches c.path o.allowedFiles) fun allowed =>
    if allowed then .none
    else .each (fun s =>
      match Site.code s |>.import? with
      | some i => checkImport r o probe c s i
      | none => .none) (c.sites [.importDecl])

end DesignLint.Inversion
