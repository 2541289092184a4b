import DesignLint.Pattern.Basic
import DesignLint.Value.Reader

namespace DesignLint.Pattern

structure Flags where
  anyCase : Bool := false
  byLine : Bool := false
  dotAll : Bool := false
  spaced : Bool := false
  ascii : Bool := false
  unicode : Bool := false
  once : Bool := false
deriving DecidableEq, Repr

namespace Flags

def rule (f : Flags) : CaseRule :=
  if f.anyCase then (if f.ascii then .asciiLetters else .allLetters) else .exact

def conflicting (f : Flags) : Bool := f.ascii && f.unicode

def meets (f g : Flags) : Bool :=
  (f.anyCase && g.anyCase) || (f.byLine && g.byLine) || (f.dotAll && g.dotAll) ||
    (f.spaced && g.spaced)

def union (f g : Flags) : Flags :=
  ⟨f.anyCase || g.anyCase, f.byLine || g.byLine, f.dotAll || g.dotAll, f.spaced || g.spaced,
   f.ascii || g.ascii, f.unicode || g.unicode, f.once || g.once⟩

def change (f on off : Flags) : Flags :=
  let typed := on.ascii || on.unicode
  ⟨(f.anyCase || on.anyCase) && !off.anyCase, (f.byLine || on.byLine) && !off.byLine,
   (f.dotAll || on.dotAll) && !off.dotAll, (f.spaced || on.spaced) && !off.spaced,
   if typed then on.ascii else f.ascii, if typed then on.unicode else f.unicode, f.once⟩

def ofLetter? : Char → Option Flags
  | 'i' => some { anyCase := true }
  | 'm' => some { byLine := true }
  | 's' => some { dotAll := true }
  | 'x' => some { spaced := true }
  | 'a' => some { ascii := true }
  | 'u' => some { unicode := true }
  | 't' => some { once := true }
  | _ => none

def ofLetters? (letters : List Char) : Option Flags :=
  match letters.mapM ofLetter? with
  | some flags =>
    let all := flags.foldl union {}
    if all.conflicting then none else some all
  | none => none

end Flags

inductive Opening where
  | capture (name : Option (List Char))
  | scope (on off : Flags)
  | atomic
  | ahead (wanted : Bool)
  | behind (wanted : Bool)
  | given (name : List Char)
deriving DecidableEq, Repr

inductive Token where
  | item (p : Pattern)
  | anchor (a : Anchor)
  | reference (number : Nat)
  | named (name : List Char)
  | remark
  | flags (f : Flags)
  | opening (o : Opening)
  | closing
  | bar
  | times (least : Nat) (most : Option Nat) (greed : Greed)
deriving DecidableEq, Repr

namespace Reader

def hexNumber? (count : Nat) (s : List Char) : Option Nat := do
  let digits ← (s.take count).mapM Value.Reader.hexValue?
  guard (digits.length = count)
  pure (digits.foldl (· * 16 + ·) 0)

def isOctal (c : Char) : Bool := decide ('0' ≤ c) && decide (c ≤ '7')

def octalNumber (s : List Char) : Nat :=
  s.foldl (fun n c => n * 8 + (c.toNat - 48)) 0

def code? (greatest width code : Nat) : Option (CharItem × Nat) :=
  if code ≤ greatest then some (.range code code, width) else none

def kind? (ascii : Bool) : Char → Option (List CharItem)
  | 'd' => some (if ascii then [.range 48 57] else [.digit true])
  | 'D' => some (if ascii then [.range 0 47, .range 58 0x10FFFF] else [.digit false])
  | 'w' => some (if ascii then [.range 48 57, .range 65 90, .range 95 95, .range 97 122]
      else [.word true])
  | 'W' => some (if ascii then [.range 0 47, .range 58 64, .range 91 94, .range 96 96,
      .range 123 0x10FFFF] else [.word false])
  | 's' => some (if ascii then [.range 9 13, .range 32 32] else [.blank true])
  | 'S' => some (if ascii then [.range 0 8, .range 14 31, .range 33 0x10FFFF] else [.blank false])
  | _ => none

def single? : List Char → Option (CharItem × Nat)
  | [] => none
  | c :: rest =>
    match c with
    | 'a' => some (.range 7 7, 1)
    | 'f' => some (.range 12 12, 1)
    | 'n' => some (.range 10 10, 1)
    | 'r' => some (.range 13 13, 1)
    | 't' => some (.range 9 9, 1)
    | 'v' => some (.range 11 11, 1)
    | 'x' => (hexNumber? 2 rest).bind (code? 0xFF 3)
    | 'u' => (hexNumber? 4 rest).bind (code? 0xFFFF 5)
    | 'U' => (hexNumber? 8 rest).bind (code? 0x10FFFF 9)
    | c => if c.isAlphanum then none else some (.single c, 1)

def octal? (s : List Char) : Option (CharItem × Nat) :=
  let digits := (s.take 3).takeWhile isOctal
  if digits.isEmpty then none else code? 0o377 digits.length (octalNumber digits)

def member? (ascii : Bool) : List Char → Option (List CharItem × Nat)
  | [] => none
  | '\\' :: 'b' :: _ => some ([.range 8 8], 2)
  | '\\' :: rest =>
    match rest.head?.bind (kind? ascii) with
    | some items => some (items, 2)
    | none =>
      match octal? rest with
      | some (item, width) => some ([item], width + 1)
      | none => (single? rest).map fun (item, width) => ([item], width + 1)
  | c :: _ => some ([.single c], 1)

def members? (ascii : Bool) (s : List Char) : Option (List CharItem × Nat × Bool) := do
  let (low, width) ← member? ascii s
  match s.drop width with
  | '-' :: ']' :: _ => pure (low ++ [.single '-'], width + 2, true)
  | '-' :: rest =>
    let (high, highWidth) ← member? ascii rest
    match low, high with
    | [.range a a'], [.range b b'] =>
      if a = a' ∧ b = b' ∧ a ≤ b then pure ([.range a b], width + 1 + highWidth, false) else none
    | _, _ => none
  | _ => pure (low, width, false)

def classFrom (ascii : Bool) (got : List CharItem) (count : Nat) :
    Nat → List Char → Option (List CharItem × Nat)
  | _, [] => none
  | skip + 1, _ :: rest => classFrom ascii got (count + 1) skip rest
  | 0, c :: rest =>
    if c = ']' ∧ got ≠ [] then some (got, count + 1)
    else match members? ascii (c :: rest) with
      | none => none
      | some (items, width, true) => some (got ++ items, count + width)
      | some (items, width, false) => classFrom ascii (got ++ items) (count + 1) (width - 1) rest

def class? (f : Flags) : List Char → Option (Pattern × Nat)
  | '^' :: rest =>
    (classFrom f.ascii [] 0 0 rest).map fun (items, n) => (oneOf ⟨true, items, f.rule⟩, n + 1)
  | s => (classFrom f.ascii [] 0 0 s).map fun (items, n) => (oneOf ⟨false, items, f.rule⟩, n)

def countLimit : Nat := 4294967294

-- Nothing if the brace stands for itself, and an inner nothing if the bounds are wrong.
def bounds? (s : List Char) : Option (Option (Nat × Option Nat) × Nat) :=
  let low := s.takeWhile Char.isDigit
  let rest := s.drop low.length
  let (high, width) := match rest with
    | ',' :: more =>
      let high := more.takeWhile Char.isDigit
      (high, low.length + 1 + high.length)
    | _ => (low, low.length)
  if s.head? = some '\x7d' then none
  else match s.drop width with
    | '\x7d' :: _ =>
      let least := Value.Reader.natural low
      let most := if high.isEmpty then none else some (Value.Reader.natural high)
      let fits := decide (least ≤ countLimit) && match most with
        | some m => decide (m ≤ countLimit) && decide (least ≤ m)
        | none => true
      some (if fits then some (least, most) else none, width + 1)
    | _ => none

def repetition (least : Nat) (most : Option Nat) (width : Nat) : List Char → Token × Nat
  | '?' :: _ => (.times least most .lazy, width + 1)
  | '+' :: _ => (.times least most .possessive, width + 1)
  | _ => (.times least most .greedy, width)

def nameUpTo? (stop : Char) (s : List Char) : Option (List Char) :=
  let name := s.takeWhile (· != stop)
  if name ≠ [] ∧ name.length < s.length then some name else none

def isName : List Char → Bool
  | [] => false
  | c :: cs =>
    Text.isWord c && (Text.digitValue? c).isNone && cs.all Text.isWord

def remarkFrom? (count : Nat) : List Char → Option Nat
  | [] => none
  | '\\' :: _ :: rest => remarkFrom? (count + 2) rest
  | c :: rest => if c = ')' then some (count + 1) else remarkFrom? (count + 1) rest

def flags? (s : List Char) : Option (Token × Nat) :=
  let on := s.takeWhile Char.isAlpha
  match s.drop on.length with
  | ')' :: _ => (Flags.ofLetters? on).map fun f => (.flags f, on.length + 1)
  | ':' :: _ =>
    ((Flags.ofLetters? on).filter (!·.once)).map fun f => (.opening (.scope f {}), on.length + 1)
  | '-' :: rest =>
    let off := rest.takeWhile Char.isAlpha
    match off.isEmpty, rest.drop off.length, Flags.ofLetters? on, Flags.ofLetters? off with
    | false, ':' :: _, some f, some g =>
      if f.meets g || g.ascii || g.unicode || f.once || g.once then none
      else some (.opening (.scope f g), on.length + off.length + 2)
    | _, _, _, _ => none
  | _ => none

def extension? : List Char → Option (Token × Nat)
  | ':' :: _ => some (.opening (.scope {} {}), 1)
  | '>' :: _ => some (.opening .atomic, 1)
  | '=' :: _ => some (.opening (.ahead true), 1)
  | '!' :: _ => some (.opening (.ahead false), 1)
  | '<' :: '=' :: _ => some (.opening (.behind true), 2)
  | '<' :: '!' :: _ => some (.opening (.behind false), 2)
  | '#' :: rest => (remarkFrom? 0 rest).map fun n => (.remark, n + 1)
  | '(' :: rest => (nameUpTo? ')' rest).map fun name => (.opening (.given name), name.length + 2)
  | 'P' :: '<' :: rest => do
    let name ← nameUpTo? '>' rest
    guard (isName name)
    pure (.opening (.capture (some name)), name.length + 3)
  | 'P' :: '=' :: rest => do
    let name ← nameUpTo? ')' rest
    guard (isName name)
    pure (.named name, name.length + 3)
  | s => match s.head? with
    | some c => if c.isAlpha || c == '-' then flags? s else none
    | none => none

def numbered? (f : Flags) (s : List Char) : Option (Token × Nat) :=
  let digits := (s.take 2).takeWhile Char.isDigit
  if digits.length = 2 ∧ (s.take 3).length = 3 ∧ (s.take 3).all isOctal then
    (octal? s).map fun (item, width) => (.item (oneOf ⟨false, [item], f.rule⟩), width)
  else some (.reference (Value.Reader.natural digits), digits.length)

def escape? (f : Flags) : List Char → Option (Token × Nat)
  | [] => none
  | c :: rest =>
    match c with
    | 'A' => some (.anchor .start, 1)
    | 'Z' => some (.anchor .close, 1)
    | 'b' => some (.anchor (.edge true f.ascii), 1)
    | 'B' => some (.anchor (.edge false f.ascii), 1)
    | '0' => (octal? (c :: rest)).map fun (item, width) =>
        (.item (oneOf ⟨false, [item], f.rule⟩), width)
    | c =>
      if c.isDigit then numbered? f (c :: rest)
      else match kind? f.ascii c with
        | some items => some (.item (oneOf ⟨false, items, f.rule⟩), 1)
        | none => (single? (c :: rest)).map fun (item, width) =>
            (.item (oneOf ⟨false, [item], f.rule⟩), width)

def token? (f : Flags) : List Char → Option (Token × Nat)
  | [] => none
  | c :: rest =>
    let itself : Token := .item (oneOf ⟨false, [.single c], f.rule⟩)
    match c with
    | '.' => some (.item (oneOf ⟨true, if f.dotAll then [] else [.single '\n'], .exact⟩), 1)
    | '^' => some (.anchor (if f.byLine then .lineStart else .start), 1)
    | '$' => some (.anchor (if f.byLine then .lineFinish else .finish), 1)
    | '(' =>
      match rest with
      | '?' :: more => (extension? more).map fun (t, width) => (t, width + 2)
      | _ => some (.opening (.capture none), 1)
    | ')' => some (.closing, 1)
    | '|' => some (.bar, 1)
    | '*' => some (repetition 0 none 1 rest)
    | '+' => some (repetition 1 none 1 rest)
    | '?' => some (repetition 0 (some 1) 1 rest)
    | '\x7b' =>
      match bounds? rest with
      | none => some (itself, 1)
      | some (none, _) => none
      | some (some (least, most), width) =>
        some (repetition least most (width + 1) (rest.drop width))
    | '[' => (class? f rest).map fun (p, width) => (.item p, width + 1)
    | '\\' => (escape? f rest).map fun (t, width) => (t, width + 1)
    | _ => some (itself, 1)

end Reader

end DesignLint.Pattern
