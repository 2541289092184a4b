import DesignLint.Config.Schema
import DesignLint.Context
import DesignLint.Diagnostic.Findings
import DesignLint.TypeTest

namespace DesignLint.OpenClosed

structure Settings where
  maxSwitchCases : Int
  maxChain : Int
  maxTypeTests : Int
  allowedTypeTests : List Value
  modificationPatterns : List Value
  extensionPatterns : List Value
  excludedFiles : List Value
  allowFactories : Bool
  allowEnums : Bool
  strict : Bool

def schema : Schema where
  owner := "OCPOptions"
  defaults := [
    ("max_switch_cases", .int 5),
    ("max_if_else_chain", .int 4),
    ("max_type_checks", .int 3),
    ("allowed_type_check_patterns", Options.texts ["typeof", "instanceof", "Array.isArray"]),
    ("forbidden_modification_patterns", Options.texts
      ["switch.*type", "if.*type.*===", "if.*instanceof", "typeof.*===.*string|number|boolean"]),
    ("extension_patterns", Options.texts
      ["extends", "implements", "mixin", "plugin", "decorator", "factory", "strategy", "visitor"]),
    ("exclude_file_patterns", Options.texts
      [".*\\.test\\.(js|ts|jsx|tsx)$", ".*\\.spec\\.(js|ts|jsx|tsx)$",
       "__tests__/.*\\.(js|ts|jsx|tsx)$", ".*\\.config\\.(js|ts)$", "config/.*\\.(js|ts)$"]),
    ("allow_factory_patterns", .bool true),
    ("allow_enum_patterns", .bool true),
    ("strict_mode", .bool false)]

def Settings.ofOptions (o : Fields) : Settings where
  maxSwitchCases := Options.number o "max_switch_cases"
  maxChain := Options.number o "max_if_else_chain"
  maxTypeTests := Options.number o "max_type_checks"
  allowedTypeTests := Options.items o "allowed_type_check_patterns"
  modificationPatterns := Options.items o "forbidden_modification_patterns"
  extensionPatterns := Options.items o "extension_patterns"
  excludedFiles := Options.items o "exclude_file_patterns"
  allowFactories := Options.flag o "allow_factory_patterns"
  allowEnums := Options.flag o "allow_enum_patterns"
  strict := Options.flag o "strict_mode"

def tooManySwitchCases : Message :=
  ⟨"tooManySwitchCases",
    ["Switch statement with ", slot "count", " cases violates OCP. Consider using polymorphism, ",
      "strategy pattern, or factory pattern instead. Max allowed: ", slot "max"]⟩

def longIfElseChain : Message :=
  ⟨"longIfElseChain",
    ["If-else chain with ", slot "count", " conditions violates OCP. Consider using polymorphism ",
      "or strategy pattern instead. Max allowed: ", slot "max"]⟩

def typeCheckViolation : Message :=
  ⟨"typeCheckViolation",
    ["Type checking pattern '", slot "pattern", "' violates OCP. Consider using polymorphism or ",
      "interface-based approach instead."]⟩

def modificationRisk : Message :=
  ⟨"modificationRisk",
    ["Code pattern '", slot "pattern", "' suggests modification instead of extension. Consider ",
      "using strategy pattern or dependency injection."]⟩

def missingAbstraction : Message :=
  ⟨"missingAbstraction",
    ["Function '", slot "name", "' handles multiple types directly. Consider creating an ",
      "abstraction layer."]⟩

def hardcodedTypeHandling : Message :=
  ⟨"hardcodedTypeHandling",
    ["Hardcoded type handling in '", slot "name", "' violates OCP. Consider using factory pattern ",
      "or polymorphism."]⟩

def extensionViolation : Message :=
  ⟨"extensionViolation",
    ["Adding new types to this ", slot "construct", " requires modification. Consider using ",
      "extensible patterns like visitor or strategy."]⟩

def conditionalComplexity : Message :=
  ⟨"conditionalComplexity",
    ["Complex conditional logic in '", slot "name", "' makes extension difficult. Consider ",
      "extracting to separate handlers."]⟩

def magicTypeValues : Message :=
  ⟨"magicTypeValues",
    ["Magic type values detected. Consider using enums or constants to make extension easier."]⟩

def directTypeManipulation : Message :=
  ⟨"directTypeManipulation",
    ["Direct type manipulation violates OCP. Consider using abstract factories or builders."]⟩

def lackOfPolymorphism : Message :=
  ⟨"lackOfPolymorphism",
    ["Multiple type-specific branches suggest missing polymorphism. Consider using inheritance or ",
      "composition."]⟩

def searches (pattern : Value) (text : List Char) : Trial Bool :=
  match pattern.asText with
  | .error m => .error m
  | .ok spelled =>
    match Pattern.read? spelled with
    | some p => .ok (p.foundIn text)
    | none => .error (.badPattern spelled)

def typeLiteral : Pattern :=
  let names := "(string|number|boolean|object|array|function)"
  .ofText ("'" ++ names ++ "'|\"" ++ names ++ "\"|`" ++ names ++ "`")

def enumWord : Pattern :=
  .ofText "(?i)\\b(type|kind|status|state|mode)\\b"

def typeProperty : Pattern :=
  .ofText "\\.(type|kind|constructor|__proto__)"

def dynamicCalls : List Pattern :=
  ["\\.call\\s*\\(", "\\.apply\\s*\\(", "\\.bind\\s*\\(", "\\w+\\.\\w+\\s*\\(",
   "\\w+\\[\\w+\\]\\s*\\("].map Pattern.ofText

def isExempt (o : Settings) (s : Site) (discriminant : String) : Bool :=
  !o.strict &&
    ((o.allowEnums && enumWord.foundIn discriminant.toList) ||
     (o.allowFactories && s.enclosingScope.any fun f =>
        let name := Text.lower (Site.functionName f).toList
        ["factory", "create", "builder"].any fun part => Text.occurs part.toList name))

def discriminantText (s : Site) : String :=
  ((s.code.link .discriminant).map SyntaxTree.text).getD ""

def caseCount (s : Site) : Nat :=
  match s.code.link .body with
  | some body => body.children.countP fun c => c.label.kind = .case
  | none => 0

def checkSwitch (r : Reporter) (o : Settings) (s : Site) : Findings :=
  let discriminant := discriminantText s
  if isExempt o s discriminant then .none
  else
    .when (o.maxSwitchCases < Int.ofNat (caseCount s))
      (r.report tooManySwitchCases s
        [("count", .int (Int.ofNat (caseCount s))), ("max", .int o.maxSwitchCases)]) ++
    .when (typeProperty.foundIn discriminant.toList)
      (r.report extensionViolation s [("construct", .text "switch statement")]) ++
    .when (typeLiteral.foundIn s.code.text.toList) (r.report magicTypeValues s [])

def isListed (items : List Value) (word : String) : Bool :=
  items.any fun v => v.asText? = some word

def checkBranch (r : Reporter) (o : Settings) (s : Site) : Findings :=
  .when (s.isChainRoot && o.maxChain < Int.ofNat s.code.chainLength)
    (r.report longIfElseChain s
      [("count", .int (Int.ofNat s.code.chainLength)), ("max", .int o.maxChain)]) ++
  match s.link .test with
  | none => .none
  | some (test : Site) =>
    match typeTest? test.code.text with
    | some idiom =>
      .when (!isListed o.allowedTypeTests idiom)
        (r.report typeCheckViolation test [("pattern", .text idiom)])
    | none => .none

def checkBinary (r : Reporter) (o : Settings) (s : Site) : Findings :=
  .each (fun pattern =>
    .given (searches pattern s.code.text.toList) fun found =>
      .when found (r.report modificationRisk s [("pattern", pattern)]))
    o.modificationPatterns

def checkAssignment (r : Reporter) (s : Site) : Findings :=
  .when ((s.code.link .left).any fun left =>
      left.kind = .member && left.name.any (["type", "kind", "constructor"].contains ·))
    (r.report directTypeManipulation s [])

def checkClass (r : Reporter) (s : Site) : Findings :=
  match s.code.link .body with
  | none => .none
  | some body =>
    .when (2 < body.children.countP fun m =>
        m.label.kind = .method && (typeTest? m.label.text).isSome)
      (r.report hardcodedTypeHandling s
        [("name", .text (s.code.properName.getD anonymousClass))])

structure Profile where
  typeTests : Nat := 0
  idioms : List String := []
  hasSwitch : Bool := false
  hasChain : Bool := false
deriving DecidableEq, Repr

abbrev Profiles := List (List Nat × Profile)

namespace Profiles

def update (address : List Nat) (change : Profile → Profile) : Profiles → Profiles
  | [] => [(address, change {})]
  | (a, p) :: rest =>
    if a = address then (a, change p) :: rest else (a, p) :: update address change rest

def get? (address : List Nat) (profiles : Profiles) : Option Profile :=
  profiles.lookup address

end Profiles

def contribution (o : Settings) (s : Site) : Option (Profile → Profile) :=
  match s.kind with
  | .selection =>
    if isExempt o s (discriminantText s) then none else some fun p => { p with hasSwitch := true }
  | .branch =>
    if s.isChainRoot && 2 < s.code.chainLength then some fun p => { p with hasChain := true }
    else none
  | .binary =>
    (typeTest? s.code.text).map fun idiom p =>
      { p with typeTests := p.typeTests + 1, idioms := p.idioms.insert idiom }
  | _ => none

def note (o : Settings) (profiles : Profiles) (s : Site) : Profiles :=
  match contribution o s, s.enclosingScope with
  | some change, some f => profiles.update f.address change
  | _, _ => profiles

def mentionsExtension (o : Settings) (s : Site) : Trial Bool :=
  let text := Text.lower s.code.text.toList
  Trial.any (fun v => searches (.text ("\\b" ++ v.plain ++ "\\b")) text) o.extensionPatterns

def checkFunction (r : Reporter) (o : Settings) (s : Site) (p : Profile) : Findings :=
  .given (mentionsExtension o s) fun mentioned =>
    if mentioned then .none
    else
      let name : Fields := [("name", .text s.functionName)]
      .when (o.maxTypeTests < Int.ofNat p.typeTests) (r.report missingAbstraction s name) ++
      .when (s.kind != .arrow)
        (.when (2 < p.idioms.length &&
            !dynamicCalls.any fun call => call.foundIn s.code.text.toList)
          (r.report lackOfPolymorphism s []) ++
        .when ((p.hasSwitch || p.hasChain) && 1 < p.typeTests)
          (r.report conditionalComplexity s name))

def checkSite (r : Reporter) (o : Settings) (s : Site) : Findings :=
  match s.kind with
  | .selection => checkSwitch r o s
  | .branch => checkBranch r o s
  | .binary => checkBinary r o s
  | .assignment => checkAssignment r s
  | _ => checkClass r s

def check (r : Reporter) (o : Settings) (c : Context) : Findings :=
  .given (Trial.any (fun p => searches p c.path.toList) o.excludedFiles) fun excluded =>
    if excluded then .none
    else
      let sites := c.sites [.selection, .branch, .binary, .assignment, .classDecl]
      let profiles := sites.foldl (note o) []
      .each (checkSite r o) sites ++
      .each (fun s =>
        match profiles.get? (Spot.address s) with
        | some p => checkFunction r o s p
        | none => .none) (c.sites [.function, .arrow, .method])

end DesignLint.OpenClosed
