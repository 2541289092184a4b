import DesignLint.Config.Schema
import DesignLint.Context
import DesignLint.Diagnostic.Findings
import DesignLint.NamePattern
import DesignLint.Pattern.Reader

namespace DesignLint.Repository

structure Settings where
  pattern : String
  naming : String
  maxMethods : Int
  businessWords : List Value
  storageWords : List Value
  interfaceDirectories : List Value
  implementationDirectories : List Value
  infrastructureImports : List Value

def schema : Schema where
  owner := "RepositoryOptions"
  defaults := [
    ("repository_pattern", .text "interface"),
    ("interface_naming", .text "I\x7bname\x7dRepository"),
    ("max_methods", .int 10),
    ("business_logic_keywords", Options.texts ["validate", "calculate", "process", "transform"]),
    ("storage_keywords", Options.texts ["sql", "mongo", "redis", "query", "execute"]),
    ("interface_directories", Options.texts ["/domain/", "/core/"]),
    ("implementation_directories", Options.texts ["/infrastructure/", "/data/"]),
    ("infrastructure_imports", Options.texts
      ["/infrastructure/", "/data/", "mongoose", "sequelize", "typeorm"])]

def checkOptions (o : Fields) : Except ConfigError Fields :=
  let pattern := Options.word o "repository_pattern"
  if pattern = "interface" ∨ pattern = "class" then .ok o
  else .error (.badRepositoryPattern pattern)

def Settings.ofOptions (o : Fields) : Settings where
  pattern := Options.word o "repository_pattern"
  naming := Options.word o "interface_naming"
  maxMethods := Options.number o "max_methods"
  businessWords := Options.items o "business_logic_keywords"
  storageWords := Options.items o "storage_keywords"
  interfaceDirectories := Options.items o "interface_directories"
  implementationDirectories := Options.items o "implementation_directories"
  infrastructureImports := Options.items o "infrastructure_imports"

def wrongDirectory : Message :=
  ⟨"wrongDirectory",
    ["Repository ", slot "kind", " '", slot "name", "' should be in the ", slot "layer",
     " layer"]⟩

def interfaceNaming : Message :=
  ⟨"interfaceNaming",
    ["Repository interface '", slot "name", "' should follow naming pattern: ", slot "pattern"]⟩

def tooManyMethods : Message :=
  ⟨"tooManyMethods",
    ["Repository '", slot "name", "' has too many methods (", slot "count", "). Consider ",
      "splitting into smaller interfaces."]⟩

def businessLogicMethod : Message :=
  ⟨"businessLogicMethod",
    ["Repository method '", slot "name", "' appears to contain business logic. Move to domain ",
      "service."]⟩

def leakyAbstraction : Message :=
  ⟨"leakyAbstraction",
    ["Repository method '", slot "name", "' exposes database implementation details"]⟩

def returnsDataObject : Message :=
  ⟨"returnsDataObject",
    ["Repository method '", slot "name", "' should return domain entities, not DTOs or Models ",
      "(returns ", slot "returnType", ")"]⟩

def missingImplements : Message :=
  ⟨"missingImplements",
    ["Repository implementation '", slot "name", "' should implement a repository interface"]⟩

def complexConditional : Message :=
  ⟨"complexConditional",
    ["Repository implementation method '", slot "name", "' contains complex business logic. Move ",
      "to domain service."]⟩

def domainImportsInfrastructure : Message :=
  ⟨"domainImportsInfrastructure",
    ["Domain layer should not import infrastructure dependencies (\"", slot "importPath", "\")"]⟩

def mixedCondition : Pattern :=
  .ofText "if\\s*\\([^)]*&&[^)]*\\|[^)]*\\)"

def anyWithin (words : List Value) (s : List Char) : Trial Bool :=
  Trial.any (fun w => w.asText.map fun t => Text.occurs t.toList s) words

def inDirectory (path : String) (directories : List Value) : Trial Bool :=
  anyWithin directories ('/' :: path.toList.dropWhile (· == '/'))

def checkPlace (r : Reporter) (d : Declaration) (directories : List Value) (kind layer : String) :
    Findings :=
  .given (inDirectory r.file directories) fun there =>
    .when (!there) (r.report wrongDirectory d.site
      [("kind", .text kind), ("name", .text d.name), ("layer", .text layer)])

def checkWidth (r : Reporter) (o : Settings) (d : Declaration) (count : Nat) : Findings :=
  .when (o.maxMethods < Int.ofNat count)
    (r.report tooManyMethods d.site [("name", .text d.name), ("count", .int (Int.ofNat count))])

def checkName (r : Reporter) (o : Settings) (m : Method) : Findings :=
  let word := Text.lower m.name.toList
  .given (anyWithin o.businessWords word) (fun found =>
    .when found (r.report businessLogicMethod m.site [("name", .text m.name)])) ++
  .given (anyWithin o.storageWords word) (fun found =>
    .when found (r.report leakyAbstraction m.site [("name", .text m.name)]))

def isDataObject (returnType : String) : Bool :=
  let head := Text.trim (Text.upTo '<' returnType.toList)
  ["DTO", "Model"].any fun marker => Text.occurs marker.toList head

def checkSignature (r : Reporter) (o : Settings) (m : Method) : Findings :=
  checkName r o m ++
  match m.returnType with
  | some t =>
    .when (isDataObject t) (r.report returnsDataObject m.site
      [("name", .text m.name), ("returnType", .text t)])
  | none => .none

def checkInterface (r : Reporter) (o : Settings) (d : Declaration) : Findings :=
  let methods := d.methods.filter fun m => m.form = .signature
  checkPlace r d o.interfaceDirectories "interface" "domain/core" ++
  .when (!NamePart.matchesName o.naming d.name)
    (r.report interfaceNaming d.site [("name", .text d.name), ("pattern", .text o.naming)]) ++
  checkWidth r o d methods.length ++
  .each (checkSignature r o) methods

def checkMethod (r : Reporter) (o : Settings) (m : Method) : Findings :=
  checkName r o m ++
  .when ((m.site.code.link .body).any fun body => mixedCondition.foundIn body.text.toList)
    (r.report complexConditional m.site [("name", .text m.name)])

def checkImplementation (r : Reporter) (o : Settings) (d : Declaration) : Findings :=
  let methods := d.methods.filter fun m => m.form = .method
  checkPlace r d o.implementationDirectories "implementation" "infrastructure/data" ++
  .when (o.pattern = "interface" && d.interfaces.isEmpty)
    (r.report missingImplements d.site [("name", .text d.name)]) ++
  checkWidth r o d methods.length ++
  .each (checkMethod r o) methods

def checkImport (r : Reporter) (o : Settings) (s : Site) : Findings :=
  let path := (s.code.import?.map (·.module)).getD ""
  .given (anyWithin o.infrastructureImports path.toList) fun found =>
    .when found (r.report domainImportsInfrastructure ((s.link .source).getD s)
      [("importPath", .text path)])

def checkDeclaration (r : Reporter) (o : Settings) (d : Declaration) : Findings :=
  if !Text.within "Repository" d.name then .none
  else if d.origin = .interfaceDecl then checkInterface r o d
  else checkImplementation r o d

def check (r : Reporter) (o : Settings) (c : Context) : Findings :=
  .given (inDirectory c.path o.interfaceDirectories) fun inDomain =>
    .each (fun s =>
      if Site.kind s = .importDecl then .when inDomain (checkImport r o s)
      else match c.declarationAt? s with
        | some d => checkDeclaration r o d
        | none => .none) (c.sites [.classDecl, .interfaceDecl, .importDecl])

end DesignLint.Repository
