import DesignLint.Config.Schema
import DesignLint.Context
import DesignLint.Diagnostic.Findings

namespace DesignLint.Segregation

structure Settings where
  maxMethods : Int
  maxUnused : Int
  maxDeviation : Int
  excluded : List Value
  countUses : Bool
  ignoreInherited : Bool

def schema : Schema where
  owner := "ISPOptions"
  defaults := [("max_methods", .int 10), ("max_unused_methods", .int 3),
    ("complexity_variance_threshold", .int 5),
    ("exclude_patterns", Options.texts ["constructor", "toString", "valueOf"]),
    ("include_usage_count", .bool true), ("ignore_inherited_methods", .bool true)]

def Settings.ofOptions (o : Fields) : Settings where
  maxMethods := Options.number o "max_methods"
  maxUnused := Options.number o "max_unused_methods"
  maxDeviation := Options.number o "complexity_variance_threshold"
  excluded := Options.items o "exclude_patterns"
  countUses := Options.flag o "include_usage_count"
  ignoreInherited := Options.flag o "ignore_inherited_methods"

def fatInterface : Message :=
  ⟨"fatInterface",
    ["ISP Violation: ", slot "kind", " '", slot "name", "' has too many methods (", slot "count",
     "). Consider splitting into smaller interfaces."]⟩

def unusedMethods : Message :=
  ⟨"unusedMethods",
    ["ISP Violation: ", slot "kind", " '", slot "name", "' has ", slot "count",
     " unused methods: ", slot "methods"]⟩

def segregationViolation : Message :=
  ⟨"segregationViolation",
    ["ISP Violation: ", slot "kind", " '", slot "name", "' mixes multiple responsibilities: ",
     slot "categories", ". Consider segregating into focused interfaces."]⟩

def mixedResponsibilities : Message :=
  ⟨"mixedResponsibilities",
    ["ISP Violation: ", slot "kind", " '", slot "name", "' has mixed responsibilities (",
     slot "categories", "). Consider creating separate interfaces for each responsibility."]⟩

def incompatible : List (Capability × Capability) := [
  (.data, .ui), (.validation, .communication), (.calculation, .ui), (.lifecycle, .data),
  (.security, .ui), (.navigation, .calculation), (.utility, .data), (.transformation, .ui)]

def maxCapabilities : Nat := 3

def capabilities (methods : List Method) : List Capability :=
  methods.foldl (fun got m => if m.capability ∈ got then got else got ++ [m.capability]) []

def isExcluded (o : Settings) (m : Method) : Trial Bool :=
  Trial.any (fun p => p.asText.map fun word => Text.within word m.name) o.excluded

def isInheritedIn (o : Settings) (c : Context) (d : Declaration) (m : Method) : Bool :=
  o.ignoreInherited && d.origin = .classDecl && c.inheritance.isInherited c.registry d.name m.name

def relevant (o : Settings) (c : Context) (d : Declaration) : List Method → Trial (List Method)
  | [] => .ok []
  | m :: rest =>
    match isExcluded o m with
    | .error e => .error e
    | .ok excluded =>
      (relevant o c d rest).map fun methods =>
        if excluded || isInheritedIn o c d m then methods else m :: methods

def deviates (limit : Int) (methods : List Method) : Bool :=
  let count := Int.ofNat methods.length
  let total := Int.ofNat (methods.foldl (fun n m => n + m.complexity) 0)
  methods.any fun m =>
    decide (limit * count < Int.ofNat (Int.ofNat m.complexity * count - total).natAbs)

def isMixture (o : Settings) (methods : List Method) : Bool :=
  maxCapabilities < (capabilities methods).length ||
    (2 ≤ methods.length && deviates o.maxDeviation methods)

def useText (o : Settings) (m : Method) : String :=
  if o.countUses then m.name ++ " (" ++ Value.numeral (Int.ofNat m.uses) ++ " uses)" else m.name

def checkMethods (r : Reporter) (o : Settings) (d : Declaration) (methods : List Method) :
    Findings :=
  let who : Fields := [("kind", .text d.kindLabel), ("name", .text d.name)]
  let found := capabilities methods
  let what : Fields := who ++ [("categories", .text (", ".intercalate (found.map (·.name))))]
  let unused := methods.filter (!·.isUsed)
  .when (o.maxMethods < Int.ofNat methods.length)
    (r.report fatInterface d.site (who ++ [("count", .int (Int.ofNat methods.length))])) ++
  .when (o.maxUnused < Int.ofNat unused.length)
    (r.report unusedMethods d.site (who ++
      [("count", .int (Int.ofNat unused.length)),
       ("methods", .text (", ".intercalate (unused.map (useText o)))),
       ("unused", .list (unused.map fun m => .text m.name))])) ++
  .when (isMixture o methods) (r.report segregationViolation d.site what) ++
  .when (incompatible.any fun p => found.contains p.1 && found.contains p.2)
    (r.report mixedResponsibilities d.site what)

def check (r : Reporter) (o : Settings) (c : Context) : Findings :=
  .each (fun d => .given (relevant o c d d.methods) (checkMethods r o d))
    (c.registry.declarations.mergeSort fun a b => decide (a.site.label.start ≤ b.site.label.start))

end DesignLint.Segregation
