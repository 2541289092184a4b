import DesignLint.Rule.Catalog
import DesignLint.Value.Reader

namespace DesignLint

namespace Settings

def ofFileValue (path : String) : Value → Except ConfigError Settings
  | .table fields =>
    match unknownKeys ["rules"] fields with
    | [] =>
      match Assoc.get? "rules" fields with
      | none => .ok default
      | some (.table entries) => default.lay entries
      | some _ => .error (.rulesNotObject path)
    | unknown => .error (.unknownTopKeys path unknown)
  | v => .error (.fileNotObject path v.typeName)

def ofFile (path : String) (bytes : List UInt8) : Except ConfigError Settings :=
  match Text.Utf8.decode? bytes with
  | .error (fault, position, width) =>
    .error (.undecodable fault ((bytes[position]?).getD 0).toNat position width)
  | .ok text =>
    match Value.read text with
    | .error .malformed => .error (.invalidFile path)
    | .error .tooDeep => .error (.deepFile path)
    | .error (.tooLong digits) => .error (.endlessNumber digits)
    | .ok v => ofFileValue path v

def load (path : String) (content : Option (List UInt8)) (required : Bool) :
    Except ConfigError Settings :=
  match content with
  | some bytes => ofFile path bytes
  | none => if required then .error (.fileNotFound path) else .ok default

end Settings

end DesignLint
