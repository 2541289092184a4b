import DesignLint.Text.Surrogate
import DesignLint.Text.WholeNumber
import DesignLint.Value.Basic

namespace DesignLint.Value

inductive ReadError where
  | malformed
  | tooDeep
  | tooLong (digits : Nat)
deriving DecidableEq, Repr

inductive Token where
  | openList
  | closeList
  | openTable
  | closeTable
  | colon
  | comma
  | atom (v : Value)
  | endless (digits : Nat)
  | junk

namespace Reader

def hexValue? (c : Char) : Option Nat :=
  if '0' ≤ c ∧ c ≤ '9' then some (c.toNat - 48)
  else if 'a' ≤ c ∧ c ≤ 'f' then some (c.toNat - 87)
  else if 'A' ≤ c ∧ c ≤ 'F' then some (c.toNat - 55)
  else none

def unit? : List Char → Option Nat
  | a :: b :: c :: d :: _ => do
    let a ← hexValue? a
    let b ← hexValue? b
    let c ← hexValue? c
    let d ← hexValue? d
    pure (((a * 16 + b) * 16 + c) * 16 + d)
  | _ => none

def escape? : List Char → Option (Char × Nat)
  | '"' :: _ => some ('"', 1)
  | '\\' :: _ => some ('\\', 1)
  | '/' :: _ => some ('/', 1)
  | 'b' :: _ => some (Char.ofNat 8, 1)
  | 'f' :: _ => some (Char.ofNat 12, 1)
  | 'n' :: _ => some ('\n', 1)
  | 'r' :: _ => some ('\r', 1)
  | 't' :: _ => some ('\t', 1)
  | 'u' :: rest => do
    let high ← unit? rest
    if 0xD800 ≤ high ∧ high < 0xE000 then
      match rest.drop 4 with
      | '\\' :: 'u' :: more =>
        match unit? more with
        | some low =>
          if high < 0xDC00 ∧ 0xDC00 ≤ low ∧ low < 0xE000 then
            pure (Char.ofNat (0x10000 + (high - 0xD800) * 0x400 + (low - 0xDC00)), 11)
          else pure (Text.ofHalf high, 5)
        | none => pure (Text.ofHalf high, 5)
      | _ => pure (Text.ofHalf high, 5)
    else pure (Char.ofNat high, 5)
  | _ => none

def stringFrom (got : List Char) (count : Nat) : Nat → List Char → Option (List Char × Nat)
  | _, [] => none
  | skip + 1, _ :: rest => stringFrom got (count + 1) skip rest
  | 0, '"' :: _ => some (got.reverse, count + 1)
  | 0, '\\' :: rest =>
    match escape? rest with
    | some (c, width) => stringFrom (c :: got) (count + 1) width rest
    | none => none
  | 0, c :: rest => if c.toNat < 32 then none else stringFrom (c :: got) (count + 1) 0 rest

def natural (digits : List Char) : Nat :=
  digits.foldl (fun n c => n * 10 + (c.toNat - 48)) 0

def fraction : List Char → List Char
  | '.' :: rest => rest.takeWhile Char.isDigit
  | _ => []

def exponent : List Char → Int × Nat
  | e :: rest =>
    if e = 'e' ∨ e = 'E' then
      let sign := match rest with
        | '-' :: _ => 1
        | '+' :: _ => 1
        | _ => 0
      let digits := (rest.drop sign).takeWhile Char.isDigit
      if digits.isEmpty then (0, 0)
      else
        let n := Int.ofNat (natural digits)
        (if rest.head? = some '-' then -n else n, 1 + sign + digits.length)
    else (0, 0)
  | [] => (0, 0)

def number? (s : List Char) : Option (Token × Nat) :=
  let negative := s.head? = some '-'
  let body := if negative then s.drop 1 else s
  let whole := match body with
    | '0' :: _ => ['0']
    | _ => body.takeWhile Char.isDigit
  if whole.isEmpty then none
  else
    let rest := body.drop whole.length
    let part := fraction rest
    let partWidth := if part.isEmpty then 0 else part.length + 1
    let (power, powerWidth) := exponent (rest.drop partWidth)
    let width := (if negative then 1 else 0) + whole.length + partWidth + powerWidth
    if partWidth = 0 ∧ powerWidth = 0 then
      if Text.digitLimit < whole.length then some (.endless whole.length, width)
      else
        let n := Int.ofNat (natural whole)
        some (.atom (.int (if negative then -n else n)), width)
    else
      let digits := natural (whole ++ part)
      let x := Decimal.Binary64.ofDecimal negative digits (power - part.length)
      some (.atom (.real x), width)

def words : List (String × Value) :=
  [("null", .null), ("true", .bool true), ("false", .bool false), ("NaN", .real .nan),
   ("Infinity", .real .infinity), ("-Infinity", .real Decimal.Binary64.infinity.negate)]

def token? : List Char → Option (Token × Nat)
  | '[' :: _ => some (.openList, 1)
  | ']' :: _ => some (.closeList, 1)
  | '\x7b' :: _ => some (.openTable, 1)
  | '\x7d' :: _ => some (.closeTable, 1)
  | ':' :: _ => some (.colon, 1)
  | ',' :: _ => some (.comma, 1)
  | '"' :: rest => (stringFrom [] 1 0 rest).map fun (s, n) => (.atom (.text (String.ofList s)), n)
  | s =>
    match words.find? fun w => w.1.toList.isPrefixOf s with
    | some (w, v) => some (.atom v, w.length)
    | none => number? s

def isSpace (c : Char) : Bool :=
  c == ' ' || c == '\t' || c == '\n' || c == '\r'

def tokensFrom (got : List Token) : Nat → List Char → List Token
  | _, [] => got.reverse
  | skip + 1, _ :: rest => tokensFrom got skip rest
  | 0, c :: rest =>
    if isSpace c then tokensFrom got 0 rest
    else match token? (c :: rest) with
      | some (t, width) => tokensFrom (t :: got) (width - 1) rest
      | none => (.junk :: got).reverse

-- The items of a list stand reversed, a table has the key whose value is being read.
inductive Frame where
  | list (items : List Value)
  | table (fields : Fields) (key : String)

inductive State where
  | wantValue
  | openedList
  | openedTable
  | wantKey (fields : Fields)
  | wantColon (fields : Fields) (key : String)
  | hasValue (v : Value)

def depthLimit : Nat := 985

def enter (inside : State) (stack : List Frame) : Except ReadError (State × List Frame) :=
  if stack.length < depthLimit then .ok (inside, stack) else .error .tooDeep

def begin (stack : List Frame) : Token → Except ReadError (State × List Frame)
  | .atom v => .ok (.hasValue v, stack)
  | .endless digits => .error (.tooLong digits)
  | .openList => enter .openedList stack
  | .openTable => enter .openedTable stack
  | _ => .error .malformed

def step : State × List Frame → Token → Except ReadError (State × List Frame)
  | (.wantValue, stack), t => begin stack t
  | (.openedList, stack), .closeList => .ok (.hasValue (.list []), stack)
  | (.openedList, stack), t => begin (.list [] :: stack) t
  | (.openedTable, stack), .closeTable => .ok (.hasValue (.table []), stack)
  | (.openedTable, stack), .atom (.text k) => .ok (.wantColon [] k, stack)
  | (.wantKey fields, stack), .atom (.text k) => .ok (.wantColon fields k, stack)
  | (.wantColon fields k, stack), .colon => .ok (.wantValue, .table fields k :: stack)
  | (.hasValue v, .list items :: stack), .comma => .ok (.wantValue, .list (v :: items) :: stack)
  | (.hasValue v, .list items :: stack), .closeList =>
    .ok (.hasValue (.list (v :: items).reverse), stack)
  | (.hasValue v, .table fields k :: stack), .comma => .ok (.wantKey (Assoc.put k v fields), stack)
  | (.hasValue v, .table fields k :: stack), .closeTable =>
    .ok (.hasValue (.table (Assoc.put k v fields)), stack)
  | _, _ => .error .malformed

def run : State × List Frame → List Token → Except ReadError Value
  | (.hasValue v, []), [] => .ok v
  | _, [] => .error .malformed
  | s, t :: rest =>
    match step s t with
    | .ok s' => run s' rest
    | .error e => .error e

end Reader

def read (s : String) : Except ReadError Value :=
  Reader.run (.wantValue, []) (Reader.tokensFrom [] 0 s.toList)

end DesignLint.Value
