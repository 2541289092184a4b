import DesignLint.Config.Schema
import DesignLint.Context
import DesignLint.Diagnostic.Findings
import DesignLint.Path.Layers

namespace DesignLint.Architecture

structure Settings where
  frameworks : List Value
  interfaces : List Value
  crossCuts : List Value
  businessLogic : List Value
  tests : List Value
  userInterface : List Value
  databases : List Value
  classifier : PathClassifier

def defaultLayers : Fields :=
  let layer (level : Int) (patterns : List String) : Value :=
    .table [("patterns", Options.texts patterns), ("level", .int level)]
  [("entities", layer 1 ["**/entities/**", "**/domain/**"]),
   ("use-cases", layer 2 ["**/use-cases/**", "**/application/**", "**/services/**"]),
   ("adapters", layer 3
     ["**/adapters/**", "**/controllers/**", "**/presenters/**", "**/gateways/**"]),
   ("frameworks", layer 4 ["**/frameworks/**", "**/infrastructure/**", "**/external/**"])]

def schema : Schema where
  owner := "CleanArchitectureOptions"
  defaults := [
    ("layers", .table defaultLayers),
    ("framework_patterns", Options.texts
      ["express", "mongoose", "sequelize", "typeorm", "axios", "fetch", "fs", "path"]),
    ("interface_patterns", Options.texts ["**/interfaces/**", "**/ports/**", "**/contracts/**"]),
    ("allowed_cross_cuts", Options.texts
      ["**/shared/**", "**/utils/**", "**/constants/**", "**/types/**"]),
    ("business_logic_patterns", Options.texts
      ["**/entities/**", "**/use-cases/**", "**/domain/**", "**/application/**"]),
    ("test_patterns", Options.texts
      ["**/*.test.js", "**/*.spec.js", "**/*.test.ts", "**/*.spec.ts", "**/test/**",
       "**/tests/**"]),
    ("ui_patterns", Options.texts
      ["**/components/**", "**/views/**", "**/pages/**", "react", "vue", "@angular"]),
    ("database_patterns", Options.texts
      ["mongoose", "sequelize", "typeorm", "mysql", "postgresql", "mongodb"]),
    ("path_aliases", .table [])]

def Settings.ofOptions (o : Fields) : Except ConfigError Settings := do
  let layers ← Layer.ofTable (Options.entries o "layers")
  let classifier ← PathClassifier.build layers (Options.entries o "path_aliases")
  return {
    frameworks := Options.items o "framework_patterns"
    interfaces := Options.items o "interface_patterns"
    crossCuts := Options.items o "allowed_cross_cuts"
    businessLogic := Options.items o "business_logic_patterns"
    tests := Options.items o "test_patterns"
    userInterface := Options.items o "ui_patterns"
    databases := Options.items o "database_patterns"
    classifier }

def dependencyRuleViolation : Message :=
  ⟨"dependencyRuleViolation",
    ["Clean Architecture violation: ", slot "innerLayer", " (level ", slot "innerLevel",
     ") cannot import from ", slot "outerLayer", " (level ", slot "outerLevel",
     "). Dependencies must point inward."]⟩

def frameworkInBusinessLogic : Message :=
  ⟨"frameworkInBusinessLogic",
    ["Clean Architecture violation: Business logic \"", slot "filePath", "\" should not directly ",
      "import framework \"", slot "framework", "\". Use dependency injection or adapters."]⟩

def entityDependsOnUseCase : Message :=
  ⟨"entityDependsOnUseCase",
    ["Clean Architecture violation: Entity \"", slot "entity", "\" should not depend on use ",
     "case \"", slot "useCase", "\". Entities should be independent."]⟩

def skipLayerViolation : Message :=
  ⟨"skipLayerViolation",
    ["Clean Architecture violation: \"", slot "currentLayer", "\" should not directly import \"",
     slot "targetLayer", "\". Go through intermediate layer \"", slot "intermediateLayer", "\"."]⟩

def missingInterface : Message :=
  ⟨"missingInterface",
    ["Clean Architecture violation: Cross-boundary import \"", slot "importPath", "\" should go ",
      "through an interface or port."]⟩

def uiInBusinessLogic : Message :=
  ⟨"uiInBusinessLogic",
    ["Clean Architecture violation: Business logic should not import UI components \"",
     slot "importPath", "\"."]⟩

def directDatabaseInUseCase : Message :=
  ⟨"directDatabaseInUseCase",
    ["Clean Architecture violation: Use case should not directly import database implementation \"",
     slot "importPath", "\". Use repository interface."]⟩

def matchesModule (path : String) (modules : List Value) : Trial Bool :=
  let bare := match path.toList with
    | 'n' :: 'o' :: 'd' :: 'e' :: ':' :: rest => rest
    | all => all
  Trial.any (fun m => m.asText.map fun name =>
    bare == name.toList || (name.toList ++ ['/']).isPrefixOf bare) modules

def hasStar : Value → Trial Bool
  | .text s => .ok (s.toList.contains '*')
  | .list items => .ok (items.any fun v => v.asText? = some "*")
  | .table fields => .ok (fields.any fun e => e.1 = "*")
  | v => .error (.notText v.typeName)

def splitGlobs : List Value → Trial (List Value × List Value)
  | [] => .ok ([], [])
  | v :: rest =>
    match hasStar v, splitGlobs rest with
    | .ok star, .ok (globs, modules) =>
      .ok (if star then (v :: globs, modules) else (globs, v :: modules))
    | .error m, _ => .error m
    | _, .error m => .error m

def isUserInterface (o : Settings) (path resolved : String) (external : Bool) : Trial Bool :=
  match splitGlobs o.userInterface with
  | .error m => .error m
  | .ok (globs, modules) =>
    if external then matchesModule path modules else PathClassifier.matches resolved globs

def isUseCase (l : Layer) : Bool :=
  l.name = "use-cases" || l.name = "useCases"

structure Standpoint where
  layer : Option Layer
  isBusiness : Bool

structure Target where
  site : Site
  path : String
  resolved : String
  external : Bool
  layer : Option Layer

def checkLayers (r : Reporter) (inner outer : Layer) (t : Target) : Findings :=
  .when (inner.level < outer.level)
    (r.report dependencyRuleViolation t.site
      [("innerLayer", .text inner.name), ("innerLevel", .int inner.level),
       ("outerLayer", .text outer.name), ("outerLevel", .int outer.level)])

def checkEntity (r : Reporter) (inner outer : Layer) (t : Target) : Findings :=
  .when (inner.name = "entities" && isUseCase outer)
    (r.report entityDependsOnUseCase t.site
      [("entity", .text r.file), ("useCase", .text t.path)])

def checkSkip (r : Reporter) (o : Settings) (inner outer : Layer) (t : Target) : Findings :=
  .when (1 < outer.level - inner.level)
    (r.report skipLayerViolation t.site
      [("currentLayer", .text inner.name), ("targetLayer", .text outer.name),
       ("intermediateLayer",
         .text (((o.classifier.nextLayer inner).map (·.name)).getD ""))])

def checkBoundary (r : Reporter) (o : Settings) (inner outer : Layer) (t : Target) : Findings :=
  if 1 < (inner.level - outer.level).natAbs then
    .given (PathClassifier.matches t.resolved o.interfaces) fun isPort =>
      .when (!isPort) (r.report missingInterface t.site [("importPath", .text t.path)])
  else .none

def between (from_ : Standpoint) (t : Target) (check : Layer → Layer → Target → Findings) :
    Findings :=
  match from_.layer, t.layer with
  | some inner, some outer => check inner outer t
  | _, _ => .none

def checkFramework (r : Reporter) (o : Settings) (from_ : Standpoint) (t : Target) : Findings :=
  if from_.isBusiness && t.external then
    .given (matchesModule t.path o.frameworks) fun found =>
      .when found (r.report frameworkInBusinessLogic t.site
        [("filePath", .text r.file), ("framework", .text t.path)])
  else .none

def checkUserInterface (r : Reporter) (o : Settings) (from_ : Standpoint) (t : Target) : Findings :=
  if from_.isBusiness then
    .given (isUserInterface o t.path t.resolved t.external) fun found =>
      .when found (r.report uiInBusinessLogic t.site [("importPath", .text t.path)])
  else .none

def checkDatabase (r : Reporter) (o : Settings) (from_ : Standpoint) (t : Target) : Findings :=
  if from_.layer.any isUseCase && t.external then
    .given (matchesModule t.path o.databases) fun found =>
      .when found (r.report directDatabaseInUseCase t.site [("importPath", .text t.path)])
  else .none

def checkTarget (r : Reporter) (o : Settings) (from_ : Standpoint) (t : Target) : Findings :=
  between from_ t (checkLayers r) ++
  checkFramework r o from_ t ++
  between from_ t (checkEntity r) ++
  between from_ t (checkSkip r o) ++
  between from_ t (checkBoundary r o) ++
  checkUserInterface r o from_ t ++
  checkDatabase r o from_ t

def checkImport (r : Reporter) (o : Settings) (from_ : Standpoint) (site : Site) (path : String) :
    Findings :=
  let target := (site.link .source).getD site
  let resolved := o.classifier.resolveImport path r.file
  if o.classifier.isExternal path then
    checkTarget r o from_ ⟨target, path, resolved, true, none⟩
  else .given (PathClassifier.matches resolved o.crossCuts) fun shared =>
    if shared then .none
    else .given (o.classifier.classify resolved) fun layer =>
      checkTarget r o from_ ⟨target, path, resolved, false, layer⟩

def checkSite (r : Reporter) (o : Settings) (from_ : Standpoint) (s : Site) : Findings :=
  match s.code.import? with
  | none => .none
  | some i =>
    if i.module = "" then .none
    else .given (PathClassifier.matches i.module o.crossCuts) fun shared =>
      if shared then .none else checkImport r o from_ s i.module

def check (r : Reporter) (o : Settings) (c : Context) : Findings :=
  .given (PathClassifier.matches c.path o.tests) fun isTest =>
    if isTest then .none
    else .given (PathClassifier.matches c.path o.crossCuts) fun shared =>
      if shared then .none
      else .given (o.classifier.classify c.path) fun layer =>
        .given (PathClassifier.matches c.path o.businessLogic) fun isBusiness =>
          .each (checkSite r o ⟨layer, isBusiness⟩) (c.sites [.importDecl])

end DesignLint.Architecture
