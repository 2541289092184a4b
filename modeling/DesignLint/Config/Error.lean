import DesignLint.Text.Utf8
import DesignLint.Text.WholeNumber
import DesignLint.Value.Basic

namespace DesignLint

inductive ConfigError where
  | unknownRule (rule : String)
  | badEntry (rule : String)
  | unknownKeys (rule : String) (keys : List String)
  | badEnabled (rule : String)
  | unknownSeverity (value : Value)
  | unknownOption (key owner : String)
  | mistypedOption (key owner expected got : String)
  | badRepositoryPattern (value : String)
  | badLayer (name : String)
  | repeatedLevel
  | notTable
  | aliasTarget
  | fileNotFound (path : String)
  | invalidFile (path : String)
  | deepFile (path : String)
  | endlessNumber (digits : Nat)
  | undecodable (fault : Text.Utf8.Fault) (byte position width : Nat)
  | fileNotObject (path got : String)
  | unknownTopKeys (path : String) (keys : List String)
  | rulesNotObject (path : String)
  | badDepth (raw : String)
  | nonPositiveDepth (depth : Int)
  | unknownLevel (name : String)
  | unsupportedLanguage (name : String)
  | unsupportedFile (path : String)

namespace ConfigError

inductive Category where
  | invalid
  | missing
  | undecodable
  | unchecked
  | tooDeep
deriving DecidableEq, Repr

def category : ConfigError → Category
  | fileNotFound _ => .missing
  | undecodable .. => .undecodable
  | notTable => .unchecked
  | aliasTarget => .unchecked
  | deepFile _ => .tooDeep
  | _ => .invalid

def faultText : Text.Utf8.Fault → String
  | .start => "invalid start byte"
  | .continuation => "invalid continuation byte"
  | .truncated => "unexpected end of data"

def commas (parts : List String) : String := ", ".intercalate parts

def number (n : Nat) : String := Value.numeral (Int.ofNat n)

def message : ConfigError → String
  | unknownRule rule => "Unknown rule: '" ++ rule ++ "'"
  | badEntry rule => "Settings for '" ++ rule ++ "' must be an object, boolean or severity"
  | unknownKeys rule keys => "Unknown keys for '" ++ rule ++ "': " ++ commas keys
  | badEnabled rule => "'enabled' for '" ++ rule ++ "' must be true or false"
  | unknownSeverity value =>
    "Unknown severity: " ++ value.literal ++ " (expected error, warning or info)"
  | unknownOption key owner => "Unknown option '" ++ key ++ "' for " ++ owner
  | mistypedOption key owner expected got =>
    "Option '" ++ key ++ "' for " ++ owner ++ " expects " ++ expected ++ ", got " ++ got
  | badRepositoryPattern value =>
    "repository_pattern must be one of interface, class, got " ++ Text.quoted value
  | badLayer name => "Layer '" ++ name ++ "' needs a 'patterns' list and an integer 'level'"
  | repeatedLevel => "Layer levels must be unique"
  | notTable => "options are not a table"
  | aliasTarget => "an alias has no text as its target"
  | fileNotFound path => "Rules file not found: " ++ path
  | invalidFile path => "Invalid JSON in " ++ path
  | deepFile path => "Too many levels in " ++ path
  | endlessNumber digits =>
    "Exceeds the limit (" ++ number Text.digitLimit ++
      " digits) for integer string conversion: value has " ++ number digits ++
      " digits; use sys.set_int_max_str_digits() to increase the limit"
  | undecodable fault byte position width =>
    "'utf-8' codec can't decode byte" ++
      (if width = 1 then
        " 0x" ++ String.ofList (Text.hex 2 byte) ++ " in position " ++ number position
      else
        "s in position " ++ number position ++ "-" ++ number (position + width - 1)) ++
      ": " ++ faultText fault
  | fileNotObject path got => path ++ ": expected an object, got " ++ got
  | unknownTopKeys path keys => path ++ ": unknown top-level keys: " ++ commas keys
  | rulesNotObject path => path ++ ": 'rules' must be an object"
  | badDepth raw => "SOLIDLINT_MAX_DEPTH must be an integer, got " ++ Text.quoted raw
  | nonPositiveDepth depth => "SOLIDLINT_MAX_DEPTH must be positive, got " ++ Value.numeral depth
  | unknownLevel name => "Unknown log level: " ++ name
  | unsupportedLanguage name => "Unsupported language: " ++ name
  | unsupportedFile path => "Unsupported file type: " ++ path

end ConfigError

end DesignLint
