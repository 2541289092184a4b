import DesignLint.Value.Basic

namespace DesignLint.Value

def jsonChar (c : Char) : List Char :=
  let unit (n : Nat) : List Char := '\\' :: 'u' :: Text.hex 4 n
  if c = '"' then ['\\', '"']
  else if c = '\\' then ['\\', '\\']
  else if c = '\n' then ['\\', 'n']
  else if c = '\r' then ['\\', 'r']
  else if c = '\t' then ['\\', 't']
  else if c = Char.ofNat 8 then ['\\', 'b']
  else if c = Char.ofNat 12 then ['\\', 'f']
  else if 32 ≤ c.toNat ∧ c.toNat < 127 then [c]
  else if Text.codeOf c < 0x10000 then unit (Text.codeOf c)
  else
    let n := c.toNat - 0x10000
    unit (0xD800 + n / 0x400) ++ unit (0xDC00 + n % 0x400)

def jsonString (s : String) : String :=
  String.ofList ('"' :: (s.toList.flatMap jsonChar ++ ['"']))

def jsonReal (x : Decimal.Binary64) : String :=
  match x.reading with
  | .nan => "NaN"
  | .infinite negative => if negative then "-Infinity" else "Infinity"
  | .finite .. => x.toText

def bracketed (opening closing : String) (margin : Option Nat) (items : List String) : String :=
  if items.isEmpty then opening ++ closing
  else match margin with
    | none => opening ++ ", ".intercalate items ++ closing
    | some m =>
      let pad (n : Nat) : String := String.ofList ('\n' :: List.replicate n ' ')
      opening ++ pad (m + 2) ++ ("," ++ pad (m + 2)).intercalate items ++ pad m ++ closing

mutual
def json (margin : Option Nat) : Value → String
  | null => "null"
  | bool b => if b then "true" else "false"
  | int n => numeral n
  | real x => jsonReal x
  | text s => jsonString s
  | list items => bracketed "[" "]" margin (jsonItems (margin.map (· + 2)) items)
  | table fields => bracketed "\x7b" "\x7d" margin (jsonFields (margin.map (· + 2)) fields)

def jsonItems (margin : Option Nat) : List Value → List String
  | [] => []
  | v :: rest => json margin v :: jsonItems margin rest

def jsonFields (margin : Option Nat) : Fields → List String
  | [] => []
  | (k, v) :: rest => (jsonString k ++ ": " ++ json margin v) :: jsonFields margin rest
end

def compact (v : Value) : String :=
  json none v

def pretty (v : Value) : String :=
  json (some 0) v

end DesignLint.Value
