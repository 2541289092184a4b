import DesignLint.Assoc
import DesignLint.Decimal.Shortest
import DesignLint.Text.Quoted
import DesignLint.Text.Search

namespace DesignLint

inductive Value where
  | null
  | bool (b : Bool)
  | int (n : Int)
  | real (x : Decimal.Binary64)
  | text (s : String)
  | list (items : List Value)
  | table (fields : List (String × Value))

abbrev Fields := Assoc Value

namespace Value

def typeName : Value → String
  | null => "NoneType"
  | bool _ => "bool"
  | int _ => "int"
  | real _ => "float"
  | text _ => "str"
  | list _ => "list"
  | table _ => "dict"

def isPresent : Value → Bool
  | null => false
  | bool b => b
  | int n => n != 0
  | real x => !x.isZero
  | text s => s != ""
  | list items => !items.isEmpty
  | table fields => !fields.isEmpty

def asText? : Value → Option String
  | text s => some s
  | _ => none

theorem asText?_eq_some {v : Value} {s : String} : v.asText? = some s ↔ v = text s := by
  cases v <;> simp [asText?]

def numeral (n : Int) : String :=
  match n with
  | .ofNat k => String.ofList (Nat.toDigits 10 k)
  | .negSucc k => String.ofList ('-' :: Nat.toDigits 10 (k + 1))

mutual
def literal : Value → String
  | null => "None"
  | bool b => if b then "True" else "False"
  | int n => numeral n
  | real x => x.toText
  | text s => Text.quoted s
  | list items => "[" ++ ", ".intercalate (literals items) ++ "]"
  | table fields => "\x7b" ++ ", ".intercalate (entries fields) ++ "\x7d"

def literals : List Value → List String
  | [] => []
  | v :: rest => literal v :: literals rest

def entries : Fields → List String
  | [] => []
  | (k, v) :: rest => (Text.quoted k ++ ": " ++ literal v) :: entries rest
end

def plain : Value → String
  | text s => s
  | v => v.literal

end Value

end DesignLint
