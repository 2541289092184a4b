import DesignLint.Config.Error
import DesignLint.Text.Lowercase

namespace DesignLint

def snakeCase (key : String) : String :=
  match key.toList with
  | [] => ""
  | first :: rest =>
    String.ofList (Text.lower (first :: rest.flatMap fun c => if c.isUpper then ['_', c] else [c]))

structure Schema where
  owner : String
  defaults : Fields
  spellings : Assoc String := []

def Value.suits (value default : Value) : Bool :=
  match default, value with
  | .bool _, .bool _ => true
  | .int _, .int _ => true
  | .text _, .text _ => true
  | .list _, .list _ => true
  | .table _, .table _ => true
  | _, _ => false

namespace Schema

def fieldOf (s : Schema) (key : String) : String :=
  (Assoc.get? key s.spellings).getD (snakeCase key)

def set (s : Schema) (options : Fields) (key : String) (value : Value) :
    Except ConfigError Fields :=
  let name := s.fieldOf key
  match Assoc.get? name s.defaults with
  | none => .error (.unknownOption key s.owner)
  | some default =>
    if value.suits default then .ok (Assoc.put name value options)
    else .error (.mistypedOption key s.owner default.typeName value.typeName)

def setAll (s : Schema) : Fields → Fields → Except ConfigError Fields
  | options, [] => .ok options
  | options, (key, value) :: rest =>
    match s.set options key value with
    | .ok options => s.setAll options rest
    | .error e => .error e

def load (s : Schema) (given : Value) : Except ConfigError Fields :=
  match given with
  | .table fields => s.setAll s.defaults fields
  | v => if v.isPresent then .error .notTable else .ok s.defaults

end Schema

namespace Options

def flag (options : Fields) (key : String) : Bool :=
  match Assoc.get? key options with
  | some (.bool b) => b
  | _ => false

def number (options : Fields) (key : String) : Int :=
  match Assoc.get? key options with
  | some (.int n) => n
  | _ => 0

def word (options : Fields) (key : String) : String :=
  match Assoc.get? key options with
  | some (.text s) => s
  | _ => ""

def items (options : Fields) (key : String) : List Value :=
  match Assoc.get? key options with
  | some (.list items) => items
  | _ => []

def entries (options : Fields) (key : String) : Fields :=
  match Assoc.get? key options with
  | some (.table fields) => fields
  | _ => []

def texts (words : List String) : Value := .list (words.map .text)

end Options

end DesignLint
