namespace DesignLint

inductive Kind where
  | program
  | classDecl
  | interfaceDecl
  | method
  | methodSignature
  | property
  | function
  | arrow
  | importDecl
  | call
  | construction
  | member
  | binary
  | logical
  | unary
  | branch
  | selection
  | case
  | loop
  | attempt
  | handler
  | throwing
  | returning
  | conditional
  | assignment
  | block
  | object
  | pair
  | declarator
  | identifier
  | string
  | null
  | other
deriving DecidableEq, Repr

namespace Kind

def name : Kind → String
  | program => "program"
  | classDecl => "class"
  | interfaceDecl => "interface"
  | method => "method"
  | methodSignature => "method_signature"
  | property => "property"
  | function => "function"
  | arrow => "arrow"
  | importDecl => "import"
  | call => "call"
  | construction => "new"
  | member => "member"
  | binary => "binary"
  | logical => "logical"
  | unary => "unary"
  | branch => "if"
  | selection => "switch"
  | case => "case"
  | loop => "loop"
  | attempt => "try"
  | handler => "catch"
  | throwing => "throw"
  | returning => "return"
  | conditional => "conditional"
  | assignment => "assignment"
  | block => "block"
  | object => "object"
  | pair => "pair"
  | declarator => "declarator"
  | identifier => "identifier"
  | string => "string"
  | null => "null"
  | other => "other"

def table : List (String × Kind) := [
  ("program", program),
  ("class_declaration", classDecl),
  ("abstract_class_declaration", classDecl),
  ("class", classDecl),
  ("interface_declaration", interfaceDecl),
  ("method_definition", method),
  ("method_signature", methodSignature),
  ("abstract_method_signature", methodSignature),
  ("field_definition", property),
  ("public_field_definition", property),
  ("function_declaration", function),
  ("function_expression", function),
  ("function", function),
  ("generator_function_declaration", function),
  ("generator_function", function),
  ("arrow_function", arrow),
  ("import_statement", importDecl),
  ("call_expression", call),
  ("new_expression", construction),
  ("member_expression", member),
  ("binary_expression", binary),
  ("unary_expression", unary),
  ("if_statement", branch),
  ("switch_statement", selection),
  ("switch_case", case),
  ("switch_default", case),
  ("for_statement", loop),
  ("for_in_statement", loop),
  ("while_statement", loop),
  ("do_statement", loop),
  ("try_statement", attempt),
  ("catch_clause", handler),
  ("throw_statement", throwing),
  ("return_statement", returning),
  ("ternary_expression", conditional),
  ("assignment_expression", assignment),
  ("augmented_assignment_expression", assignment),
  ("statement_block", block),
  ("class_body", block),
  ("interface_body", block),
  ("object_type", block),
  ("switch_body", block),
  ("object", object),
  ("pair", pair),
  ("variable_declarator", declarator),
  ("identifier", identifier),
  ("type_identifier", identifier),
  ("property_identifier", identifier),
  ("private_property_identifier", identifier),
  ("shorthand_property_identifier", identifier),
  ("this", identifier),
  ("string", string),
  ("template_string", string),
  ("null", null),
  ("undefined", null)]

def ofType (type : String) : Kind :=
  (table.lookup type).getD other

def opensScope : Kind → Bool
  | function | arrow | method => true
  | _ => false

def isNamed : Kind → Bool
  | classDecl | interfaceDecl | method | methodSignature | property | function | declarator => true
  | _ => false

end Kind

inductive Role where
  | name
  | params
  | body
  | returnType
  | value
  | source
  | callee
  | arguments
  | object
  | property
  | left
  | right
  | argument
  | test
  | consequent
  | alternate
  | discriminant
  | block
  | handler
  | finalizer
  | param
  | key
deriving DecidableEq, Repr

namespace Role

def text : Role → String
  | name => "name"
  | params => "params"
  | body => "body"
  | returnType => "return_type"
  | value => "value"
  | source => "source"
  | callee => "callee"
  | arguments => "arguments"
  | object => "object"
  | property => "property"
  | left => "left"
  | right => "right"
  | argument => "argument"
  | test => "test"
  | consequent => "consequent"
  | alternate => "alternate"
  | discriminant => "discriminant"
  | block => "block"
  | handler => "handler"
  | finalizer => "finalizer"
  | param => "param"
  | key => "key"

def functionFields : List (Role × String) :=
  [(name, "name"), (params, "parameters"), (body, "body"), (returnType, "return_type")]

def signatureFields : List (Role × String) :=
  [(name, "name"), (params, "parameters"), (returnType, "return_type")]

def classFields : List (Role × String) :=
  [(name, "name"), (body, "body")]

def sideFields : List (Role × String) :=
  [(left, "left"), (right, "right")]

def branchFields : List (Role × String) :=
  [(test, "condition"), (consequent, "consequence"), (alternate, "alternative")]

-- Of two fields with one role the first that links anything counts.
def table : List (String × List (Role × String)) := [
  ("class_declaration", classFields),
  ("abstract_class_declaration", classFields),
  ("class", classFields),
  ("interface_declaration", classFields),
  ("method_definition", functionFields),
  ("method_signature", signatureFields),
  ("abstract_method_signature", signatureFields),
  ("field_definition", [(name, "property"), (value, "value")]),
  ("public_field_definition", [(name, "name"), (value, "value")]),
  ("function_declaration", functionFields),
  ("function_expression", functionFields),
  ("function", functionFields),
  ("generator_function_declaration", functionFields),
  ("generator_function", functionFields),
  ("arrow_function",
    [(params, "parameters"), (params, "parameter"), (body, "body"), (returnType, "return_type")]),
  ("import_statement", [(source, "source")]),
  ("call_expression", [(callee, "function"), (arguments, "arguments")]),
  ("new_expression", [(callee, "constructor"), (arguments, "arguments")]),
  ("member_expression", [(object, "object"), (property, "property")]),
  ("binary_expression", sideFields),
  ("unary_expression", [(argument, "argument")]),
  ("if_statement", branchFields),
  ("switch_statement", [(discriminant, "value"), (body, "body")]),
  ("switch_case", [(test, "value")]),
  ("for_statement", [(body, "body")]),
  ("for_in_statement", [(body, "body")]),
  ("while_statement", [(body, "body")]),
  ("do_statement", [(body, "body")]),
  ("try_statement", [(block, "body"), (handler, "handler"), (finalizer, "finalizer")]),
  ("catch_clause", [(param, "parameter"), (body, "body")]),
  ("ternary_expression", branchFields),
  ("assignment_expression", sideFields),
  ("augmented_assignment_expression", sideFields),
  ("pair", [(key, "key"), (value, "value")]),
  ("variable_declarator", [(name, "name"), (value, "value")])]

def ofType (type : String) : List (Role × String) :=
  (table.lookup type).getD []

end Role

end DesignLint
