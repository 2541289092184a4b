import DesignLint.Diagnostic.Severity
import DesignLint.Diagnostic.Template
import DesignLint.SyntaxTree.Node

namespace DesignLint

structure Location where
  file : String
  line : Int
  column : Int
  endLine : Int
  endColumn : Int
deriving DecidableEq, Repr

namespace Location

def ofNumbers (file : String) (line column endLine endColumn : Int) : Location :=
  ⟨file, line, column + 1, endLine, endColumn + 1⟩

def ofSpan (file : String) (first last : Position) : Location :=
  ofNumbers file (Int.ofNat first.line) (Int.ofNat first.column) (Int.ofNat last.line)
    (Int.ofNat last.column)

def ofSite (file : String) (s : Site) : Location :=
  ofSpan file s.label.first s.label.last

def text (l : Location) : String :=
  l.file ++ ":" ++ Value.numeral l.line ++ ":" ++ Value.numeral l.column

end Location

structure Message where
  id : String
  template : Template

structure Diagnostic where
  rule : String
  message : Message
  location : Location
  severity : Severity
  data : Fields

namespace Diagnostic

def text? (d : Diagnostic) : Option String :=
  d.message.template.render d.data

mutual
def reported : Value → Value
  | .list items => .list (reportedAll items)
  | .table fields => .text (Value.literal (.table fields))
  | v => v

def reportedAll : List Value → List Value
  | [] => []
  | v :: rest => reported v :: reportedAll rest
end

def toFields? (d : Diagnostic) : Option Fields :=
  d.text?.map fun text =>
    [("rule", .text d.rule), ("messageId", .text d.message.id), ("severity", .text d.severity.text),
     ("file", .text d.location.file), ("line", .int d.location.line),
     ("column", .int d.location.column), ("endLine", .int d.location.endLine),
     ("endColumn", .int d.location.endColumn), ("message", .text text),
     ("data", .table (d.data.map fun e => (e.1, reported e.2)))]

end Diagnostic

end DesignLint
