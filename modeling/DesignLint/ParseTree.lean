import DesignLint.Text.Utf8
import DesignLint.Tree.Basic

namespace DesignLint

structure ParseNode where
  type : String
  start : Nat
  stop : Nat
  named : Bool
  field : Option String
deriving DecidableEq, Repr

abbrev ParseTree := Tree ParseNode

abbrev Source := List UInt8

def Source.slice (source : Source) (start stop : Nat) : String :=
  Text.Utf8.decode ((source.drop start).take (stop - start))

namespace ParseTree

def type (t : ParseTree) : String := t.label.type

def named (t : ParseTree) : Bool := t.label.named

def text (source : Source) (t : ParseTree) : String :=
  source.slice t.label.start t.label.stop

def namedChildren (t : ParseTree) : List ParseTree :=
  t.children.filter named

def fieldChild? (t : ParseTree) (field : String) : Option ParseTree :=
  t.children.find? fun c => c.label.field = some field

def isComment (t : ParseTree) : Bool :=
  t.type = "comment"

def wrapperTypes : List String :=
  ["parenthesized_expression", "else_clause"]

def isWrapper (t : ParseTree) : Bool :=
  t.type ∈ wrapperTypes

end ParseTree

end DesignLint
