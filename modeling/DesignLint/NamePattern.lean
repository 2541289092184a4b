import DesignLint.Text.Marks
import DesignLint.Text.Word

namespace DesignLint

inductive NamePart where
  | literal (c : Char)
  | word
  | optionalWord
deriving DecidableEq, Repr

namespace NamePart

def wordPlaceholder : List Char := "\x7bname\x7d".toList

def optionalPlaceholder : List Char := "\x7btype\x7d".toList

def readFrom : Nat → List Char → List NamePart
  | _, [] => []
  | skip + 1, _ :: cs => readFrom skip cs
  | 0, c :: cs =>
    if wordPlaceholder.isPrefixOf (c :: cs) then
      word :: readFrom (wordPlaceholder.length - 1) cs
    else if optionalPlaceholder.isPrefixOf (c :: cs) then
      optionalWord :: readFrom (optionalPlaceholder.length - 1) cs
    else literal c :: readFrom 0 cs

def read (template : String) : List NamePart := readFrom 0 template.toList

def matchAll : List NamePart → List Char → Bool
  | [], s => s.isEmpty
  | literal c :: rest, s => Marks.afterOne (c == ·) (matchAll rest) s
  | optionalWord :: rest, s => Marks.afterRun Text.isWord (matchAll rest) s
  | word :: rest, s => Marks.afterOne Text.isWord (Marks.afterRun Text.isWord (matchAll rest)) s

def move (text : List Char) (m : Marks) : NamePart → Marks
  | literal c => m.advance (c == ·) text
  | optionalWord => m.carry Text.isWord false text
  | word => (m.advance Text.isWord text).carry Text.isWord false text

def covers (parts : List NamePart) (text : List Char) : Bool :=
  (parts.foldl (move text) (Marks.atStart text)).serves List.isEmpty text

theorem serves_foldl_move (parts : List NamePart) (text : List Char) (m : Marks) :
    (parts.foldl (move text) m).serves List.isEmpty text = m.serves (matchAll parts) text := by
  induction parts generalizing m with
  | nil => rfl
  | cons part rest ih =>
    rw [List.foldl_cons, ih]
    cases part with
    | literal c => rw [move, Marks.serves_advance]; rfl
    | optionalWord => rw [move, Marks.serves_carry]; rfl
    | word =>
      rw [move, Marks.serves_carry, Bool.false_and, Bool.false_or, Marks.serves_advance]
      rfl

theorem covers_eq_matchAll (parts : List NamePart) (text : List Char) :
    covers parts text = matchAll parts text := by
  rw [covers, serves_foldl_move, Marks.serves_atStart]

def matchesName (template name : String) : Bool :=
  covers (read template) name.toList ||
    (name.toList.getLast? = some '\n' && covers (read template) name.toList.dropLast)

end NamePart

end DesignLint
