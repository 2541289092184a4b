import DesignLint.Text.Blank
import DesignLint.Text.Columns
import DesignLint.Text.Search

namespace DesignLint.Console

def isDropped (c : Char) : Bool :=
  c.toNat ∈ [7, 8, 11, 12, 13]

def visible (s : List Char) : List Char :=
  s.filter fun c => !isDropped c

def tabStop : Nat := 8

def expandFrom (column : Nat) : List Char → List Char
  | [] => []
  | c :: cs =>
    if c = '\t' then
      let gap := tabStop - column % tabStop
      List.replicate gap ' ' ++ expandFrom (column + gap) cs
    else c :: expandFrom (column + Text.columns c) cs

-- `got` holds the current word reversed: blanks alone unless it has begun, and with blanks at its
-- end if it has ended.
def wordsFrom (got : List Char) : (begun ended : Bool) → List Char → List (List Char)
  | begun, _, [] => if begun then [got.reverse] else []
  | begun, ended, c :: cs =>
    if Text.isBlank c then wordsFrom (c :: got) begun begun cs
    else if ended then got.reverse :: wordsFrom [c] true false cs
    else wordsFrom (c :: got) true false cs

def words (line : List Char) : List (List Char) :=
  wordsFrom [] false false line

def chopFrom (width : Nat) (got : List Char) (used : Nat) : List Char → List (List Char)
  | [] => [got.reverse]
  | c :: cs =>
    if width < used + Text.columns c then
      got.reverse :: chopFrom width [c] (Text.columns c) cs
    else chopFrom width (c :: got) (used + Text.columns c) cs

structure Page where
  done : List (List Char) := []
  current : List Char := []
  used : Nat := 0

namespace Page

def turn (p : Page) : Page :=
  if p.current.isEmpty then p else { p with done := p.current :: p.done, current := [] }

def fresh (p : Page) (s : List Char) : Page :=
  { p.turn with current := s, used := Text.breadth s }

def place (width : Nat) (p : Page) (word : List Char) : Page :=
  let size := Text.breadth (Text.dropEndWhile Text.isBlank word)
  if p.used + size ≤ width then
    { p with current := p.current ++ word, used := p.used + Text.breadth word }
  else if width < size then (chopFrom width [] 0 word).foldl fresh p
  else p.fresh word

def lines (p : Page) : List (List Char) :=
  (p.current :: p.done).reverse

end Page

def cropFrom (width : Nat) (used : Nat) : List Char → List Char
  | [] => []
  | c :: cs =>
    if used < width ∧ used + Text.columns c ≤ width then
      c :: cropFrom width (used + Text.columns c) cs
    else List.replicate (width - used) ' '

def fitted (width : Nat) (line : List Char) : List Char :=
  let blanks := line.length - (Text.dropEndWhile Text.isBlank line).length
  let line := line.take (line.length - min blanks (line.length - width))
  if width < Text.breadth line then cropFrom width 0 line else line

def laidOut (width : Nat) (line : List Char) : List (List Char) :=
  let line := expandFrom 0 line
  let words := words line
  let lines := if words.isEmpty then [line] else (words.foldl (Page.place width) {}).lines
  lines.map (fitted width)

def page (width : Nat) (s : List Char) : List Char :=
  Text.join ['\n'] ((Text.split '\n' s).flatMap (laidOut width))

end DesignLint.Console
