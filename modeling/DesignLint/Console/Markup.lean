import DesignLint.Console.Emoji
import DesignLint.Console.Layout

namespace DesignLint.Console.Markup

def startsName (c : Char) : Bool :=
  c.isLower || c == '#' || c == '/' || c == '@'

def body? : List Char → Option (List Char)
  | [] => none
  | c :: rest =>
    let more := rest.takeWhile fun d => d != ']' && d != '['
    if startsName c && (rest.drop more.length).head? == some ']' then some (c :: more) else none

def backslashes (n : Nat) : List Char := List.replicate n '\\'

-- `run` backslashes stand right before the text, and `skip` characters of it belong to a tag
-- already treated.
def escapeFrom : (run skip : Nat) → List Char → List Char
  | _, _, [] => []
  | _, skip + 1, c :: cs => c :: escapeFrom 0 skip cs
  | run, 0, c :: cs =>
    if c = '\\' then c :: escapeFrom (run + 1) 0 cs
    else if c = '[' then
      match body? cs with
      | some body => backslashes (run + 1) ++ c :: escapeFrom 0 (body.length + 1) cs
      | none => c :: escapeFrom 0 0 cs
    else c :: escapeFrom 0 0 cs

def escape (s : List Char) : List Char :=
  let escaped := escapeFrom 0 0 s
  if ['\\'].isSuffixOf escaped && !(['\\', '\\'].isSuffixOf escaped) then escaped ++ ['\\']
  else escaped

inductive Piece where
  | text (s : List Char)
  | tag (body : List Char)
deriving DecidableEq, Repr

-- Half of the backslashes before a tag are shown, and an odd one makes the tag plain text; a
-- bracket that opens no tag takes one backslash away.
def piecesFrom (got : List Char) : (run skip : Nat) → List Char → List Piece
  | run, _, [] => [.text (got.reverse ++ backslashes run)]
  | run, skip + 1, _ :: cs => piecesFrom got run skip cs
  | run, 0, c :: cs =>
    if c = '\\' then piecesFrom got (run + 1) 0 cs
    else if c = '[' then
      match body? cs with
      | some body =>
        .text got.reverse :: .text (backslashes (run / 2)) ::
          (if run % 2 = 1 then .text (c :: (body ++ [']'])) else .tag body) ::
          piecesFrom [] 0 (body.length + 1) cs
      | none => piecesFrom (c :: (backslashes (run - 1) ++ got)) 0 0 cs
    else piecesFrom (c :: (backslashes run ++ got)) 0 0 cs

def pieces (markup : List Char) : List Piece :=
  piecesFrom [] 0 0 markup

def Piece.shown : Piece → List Char
  | text s => visible (Emoji.replaced s)
  | tag _ => []

def plain (markup : String) : String :=
  String.ofList ((pieces markup.toList).flatMap Piece.shown)

end DesignLint.Console.Markup
