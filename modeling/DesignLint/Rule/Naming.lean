import DesignLint.Config.Schema
import DesignLint.Context
import DesignLint.Diagnostic.Findings
import DesignLint.Metric.Declarator

namespace DesignLint.Naming

structure Settings where
  ofConstants : Bool
  ofVariables : Bool
  ofClasses : Bool
  ofFunctions : Bool
deriving DecidableEq, Repr

def schema : Schema where
  owner := "NamingOptions"
  defaults := [("check_constants", .bool true), ("check_variables", .bool true),
    ("check_classes", .bool true), ("check_functions", .bool true)]

def Settings.ofOptions (o : Fields) : Settings :=
  ⟨Options.flag o "check_constants", Options.flag o "check_variables",
   Options.flag o "check_classes", Options.flag o "check_functions"⟩

def constantCase : Message :=
  ⟨"constantCase", ["Top-level constant '", slot "name", "' should be in UPPER_CASE."]⟩

def variableCase : Message :=
  ⟨"variableCase", ["Variable '", slot "name", "' should be in camelCase."]⟩

def classCase : Message :=
  ⟨"classCase", ["Class '", slot "name", "' should be in PascalCase."]⟩

def functionCase : Message :=
  ⟨"functionCase", ["Function '", slot "name", "' should be in camelCase."]⟩

def bare (name : String) : List Char :=
  let cs := name.toList
  if cs.getLast? = some '\n' then cs.dropLast else cs

def consists (first rest : Char → Bool) (name : String) : Bool :=
  match bare name with
  | [] => false
  | c :: cs => first c && cs.all rest

def isUpperCase (name : String) : Bool :=
  let test (c : Char) : Bool := c.isUpper || c.isDigit || c == '_' || c == '$'
  consists test test name

def isCamelCase (name : String) : Bool :=
  consists Char.isLower Char.isAlphanum name

def isPascalCase (name : String) : Bool :=
  consists Char.isUpper Char.isAlphanum name

def complain (r : Reporter) (m : Message) (wanted fits : Bool) (nameSite : Site) (name : String) :
    Findings :=
  .when (wanted && !fits) (r.report m nameSite [("name", .text name)])

def checkDeclarator (r : Reporter) (o : Settings) (s nameSite : Site) (name : String) : Findings :=
  match s.declarationKeyword? with
  | none => .stop .noKeyword
  | some keyword =>
    if keyword = "const" ∧ s.isTopLevel then
      complain r constantCase o.ofConstants (isUpperCase name) nameSite name
    else if keyword ∈ ["const", "let", "var"] then
      complain r variableCase o.ofVariables (isCamelCase name) nameSite name
    else .none

def checkSite (r : Reporter) (o : Settings) (s : Site) : Findings :=
  match s.link .name with
  | none => .none
  | some (nameSite : Site) =>
    if nameSite.kind ≠ .identifier then .none
    else
      let name := nameSite.code.name.getD ""
      match s.kind with
      | .declarator => checkDeclarator r o s nameSite name
      | .classDecl => complain r classCase o.ofClasses (isPascalCase name) nameSite name
      | _ =>
        .when (s.label.type = "function_declaration")
          (complain r functionCase o.ofFunctions (isCamelCase name) nameSite name)

def check (r : Reporter) (o : Settings) (c : Context) : Findings :=
  .each (checkSite r o) (c.sites [.declarator, .classDecl, .function])

end DesignLint.Naming
