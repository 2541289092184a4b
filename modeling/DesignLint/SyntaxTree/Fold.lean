import DesignLint.ParseTree
import DesignLint.SyntaxTree.Node
import DesignLint.Text.Blank
import DesignLint.Text.Search

namespace DesignLint

namespace ParseTree

mutual
def width : ParseTree → Nat
  | .node n cs =>
    if !n.named || isComment (.node n cs) then 0
    else if isWrapper (.node n cs) then forestWidth cs
    else 1

def forestWidth : List ParseTree → Nat
  | [] => 0
  | c :: cs => width c + forestWidth cs
end

def placed (i : Nat) : List ParseTree → List (Nat × ParseTree)
  | [] => []
  | c :: cs => (i, c) :: placed (i + width c) cs

def placedNamed (t : ParseTree) : List (Nat × ParseTree) :=
  (placed 0 t.children).filter fun e => e.2.named

mutual
def unwrap? : ParseTree → Option ParseTree
  | .node n cs => if isWrapper (.node n cs) then unwrapFirst? cs else some (.node n cs)

def unwrapFirst? : List ParseTree → Option ParseTree
  | [] => none
  | c :: cs => if c.named && !c.isComment then unwrap? c else unwrapFirst? cs
end

def linked? (t : ParseTree) (field : String) : Option (Nat × ParseTree) :=
  match (placed 0 t.children).find? fun e => e.2.label.field = some field with
  | some (i, c) =>
    if c.named then ((unwrap? c).filter fun d => !d.isComment).map (i, ·) else none
  | none => none

def links (t : ParseTree) : List (Role × Nat × ParseTree) :=
  (Role.ofType t.type).foldl (fun got (role, field) =>
    if (got.lookup role).isSome then got
    else match linked? t field with
      | some target => got ++ [(role, target)]
      | none => got) []

def stripQuotes (s : String) : String :=
  let isQuote (c : Char) : Bool := c == '"' || c == '\'' || c == Char.ofNat 96
  String.ofList (Text.dropEndWhile isQuote (s.toList.dropWhile isQuote))

def requiredModule? (source : Source) (t : ParseTree) : Option String := do
  let function ← t.fieldChild? "function"
  guard (function.type = "identifier" ∧ function.text source = "require")
  let args ← t.fieldChild? "arguments"
  match args.namedChildren.filter (!·.isComment) with
  | [arg] => if arg.type = "string" then some (stripQuotes (arg.text source)) else none
  | _ => none

-- The name stands inside the arguments, or in their place if they are a wrapper.
def requiredAddress? (t : ParseTree) : Option (List Nat) :=
  match (placed 0 t.children).find? fun e => e.2.label.field = some "arguments" with
  | some (i, args) =>
    match args.namedChildren with
    | first :: _ =>
      if !args.named || args.isComment || first.isComment then none
      else if args.isWrapper then some [i] else some [i, 0]
    | [] => none
  | none => none

def operator? (source : Source) (t : ParseTree) : Option String :=
  if t.type ∈ ["binary_expression", "unary_expression", "augmented_assignment_expression"] then
    (t.fieldChild? "operator").map (text source)
  else if t.type = "assignment_expression" then some "="
  else none

def kind (source : Source) (t : ParseTree) : Kind :=
  match Kind.ofType t.type with
  | .binary =>
    match operator? source t with
    | some op => if op ∈ ["&&", "||", "??"] then .logical else .binary
    | none => .binary
  | .call => if (requiredModule? source t).isSome then .importDecl else .call
  | k => k

def superclassIn (source : Source) (got : Option String) (part : ParseTree) : Option String :=
  if part.type = "extends_clause" then
    match (part.fieldChild? "value").or part.namedChildren.head? with
    | some value => some (value.text source)
    | none => got
  else if part.type = "implements_clause" then got
  else if part.isComment then got
  else got.or (some (part.text source))

def interfacesIn (source : Source) (part : ParseTree) : List String :=
  if part.type = "implements_clause" then
    part.namedChildren.map fun t =>
      String.ofList (Text.trim (Text.upTo '<' (t.text source).toList))
  else []

def heritage (t : ParseTree) : List ParseTree :=
  (t.namedChildren.filter fun c => c.type = "class_heritage").flatMap namedChildren

def hasTypeKeyword (t : ParseTree) : Bool :=
  t.children.any fun (c : ParseTree) => !c.named && c.type = "type"

def namedSpecifier? (source : Source) (typeOnly : Bool) (address : List Nat) (t : ParseTree) :
    Option Specifier :=
  if t.type = "import_specifier" then
    (t.fieldChild? "name").map fun nameNode =>
      let imported := stripQuotes (nameNode.text source)
      let bound := ((t.fieldChild? "alias").map (text source)).getD imported
      ⟨imported, bound, .named, typeOnly || t.hasTypeKeyword, address⟩
  else none

def specifiersIn (source : Source) (typeOnly : Bool) (address : List Nat) (t : ParseTree) :
    List Specifier :=
  if t.type = "identifier" then [⟨"default", t.text source, .default, typeOnly, address⟩]
  else if t.type = "namespace_import" then
    (t.placedNamed.filter fun e => e.2.type = "identifier").map fun (k, c) =>
      ⟨"*", c.text source, .namespace, typeOnly, address ++ [k]⟩
  else if t.type = "named_imports" then
    t.placedNamed.filterMap fun (k, c) => namedSpecifier? source typeOnly (address ++ [k]) c
  else []

def specifiers (source : Source) (t : ParseTree) : List Specifier :=
  (t.placedNamed.filter fun e => e.2.type = "import_clause").flatMap fun (i, clause) =>
    clause.placedNamed.flatMap fun (j, part) => specifiersIn source t.hasTypeKeyword [i, j] part

def importOf (source : Source) (t : ParseTree) (nameNode : Option ParseTree) : Import :=
  if t.type = "call_expression" then ⟨(requiredModule? source t).getD "", .require, false, []⟩
  else
    let specifiers := specifiers source t
    { module := (nameNode.map fun n => stripQuotes (n.text source)).getD ""
      form := .statement
      typeOnly := t.hasTypeKeyword || specifiers.any (·.typeOnly)
      specifiers }

def detail (source : Source) (t : ParseTree) (target : Role → Option ParseTree) : Detail :=
  match kind source t with
  | .classDecl =>
    .classLike (t.heritage.foldl (superclassIn source) none)
      (t.heritage.flatMap (interfacesIn source)) (t.type = "abstract_class_declaration")
  | .method | .methodSignature | .function | .arrow =>
    .callable ((target .returnType).map fun r =>
      String.ofList (Text.trim ((r.text source).toList.dropWhile (· == ':'))))
  | .case => .case (t.type = "switch_default")
  | .importDecl => .importing (importOf source t (target .source))
  | _ => .plain

def name? (source : Source) (t : ParseTree) (target : Role → Option ParseTree) : Option String :=
  match kind source t with
  | .member => (target .property).map (text source)
  | .identifier => some (t.text source)
  | .importDecl => some (importOf source t (target .source)).module
  | k => if k.isNamed then (target .name).map (text source) else none

end ParseTree

-- Beyond the end of the source the column goes on.
def Source.positionFrom (line column : Nat) : Nat → Source → Position
  | 0, _ => ⟨line, column⟩
  | n + 1, [] => ⟨line, column + n + 1⟩
  | n + 1, b :: rest =>
    if b = 10 then positionFrom (line + 1) 0 n rest else positionFrom line (column + 1) n rest

def Source.position (source : Source) (offset : Nat) : Position :=
  source.positionFrom 1 0 offset

namespace SyntaxTree

open ParseTree in
def nodeOf (source : Source) (t : ParseTree) : Node :=
  let links := t.links
  let target (role : Role) : Option ParseTree := (links.lookup role).map Prod.snd
  let addresses := links.map fun (role, i, _) => (role, [i])
  let kind := t.kind source
  { kind
    type := t.type
    start := t.label.start
    stop := t.label.stop
    first := source.position t.label.start
    last := source.position t.label.stop
    text := t.text source
    name := name? source t target
    operator := operator? source t
    isStatement := Text.endsWith t.type "_statement" || Text.endsWith t.type "_declaration"
    links :=
      if kind = .importDecl ∧ t.type = "call_expression" then
        addresses ++ (t.requiredAddress?.map (Role.source, ·)).toList
      else addresses
    detail := detail source t target }

mutual
def fold (source : Source) : ParseTree → List SyntaxTree
  | .node n cs =>
    if !n.named || ParseTree.isComment (.node n cs) then []
    else if ParseTree.isWrapper (.node n cs) then foldAll source cs
    else [.node (nodeOf source (.node n cs)) (foldAll source cs)]

def foldAll (source : Source) : List ParseTree → List SyntaxTree
  | [] => []
  | c :: cs => fold source c ++ foldAll source cs
end

def ofParse (source : Source) (t : ParseTree) : SyntaxTree :=
  .node (nodeOf source t) (foldAll source t.children)

end SyntaxTree

end DesignLint
