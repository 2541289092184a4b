import DesignLint.Text.Search

namespace DesignLint.Path

def slashed (path : List Char) : List Char :=
  path.map fun c => if c = '\\' then '/' else c

def dropDots : List Char → List Char
  | '.' :: '/' :: rest => dropDots rest
  | '.' :: '.' :: '/' :: rest => dropDots rest
  | path => path

def comparable (path : List Char) : List Char :=
  dropDots (slashed path)

def isAbsolute (path : List Char) : Bool :=
  path.head? == some '/'

def directory (path : List Char) : List Char :=
  let head := (path.reverse.dropWhile (· != '/')).reverse
  if head.all (· == '/') then head else Text.dropEndWhile (· == '/') head

def join (dir path : List Char) : List Char :=
  if isAbsolute path then path
  else if dir.isEmpty || dir.getLast? == some '/' then dir ++ path
  else dir ++ '/' :: path

-- The segments before stand reversed; above the root there is nothing.
def pushSegment (rooted : Bool) (before : List (List Char)) (segment : List Char) :
    List (List Char) :=
  if segment = [] ∨ segment = ['.'] then before
  else if segment ≠ ['.', '.'] then segment :: before
  else match before with
    | [] => if rooted then [] else [segment]
    | last :: rest => if last = ['.', '.'] then segment :: before else rest

-- Two slashes stay two, more become one.
def rootOf : List Char → List Char
  | '/' :: '/' :: '/' :: _ => ['/']
  | '/' :: '/' :: _ => ['/', '/']
  | '/' :: _ => ['/']
  | _ => []

def normal (path : List Char) : List Char :=
  let root := rootOf path
  let segments := ((Text.split '/' path).foldl (pushSegment (root ≠ [])) []).reverse
  let result := root ++ Text.join ['/'] segments
  if result = [] then ['.'] else result

end DesignLint.Path
