import DesignLint.Analysis
import DesignLint.Config.Environment
import DesignLint.Config.RulesFile

namespace DesignLint

inductive Content where
  | source (f : SourceFile)
  | bytes (b : List UInt8)

namespace Content

def toBytes : Content → List UInt8
  | source f => f.source
  | bytes b => b

def toSource : Content → SourceFile
  | source f => f
  | bytes b => ⟨b, .node ⟨"program", 0, b.length, true, none⟩ []⟩

end Content

-- Directories above any of these places are there too.
structure Workspace where
  files : List (List String × Content) := []
  directories : List (List String) := []
  current : List String := []

namespace Workspace

def file? (w : Workspace) (place : List String) : Option Content :=
  (w.files.find? fun e => e.1 = place).map Prod.snd

def isDirectory (w : Workspace) (place : List String) : Bool :=
  place.isPrefixOf w.current || w.directories.any (place.isPrefixOf ·) ||
    w.files.any fun e => place.isPrefixOf e.1 && place != e.1

-- Every step but the last must be in a directory, and the step up from the root leads to the root.
def walkFrom (w : Workspace) (here : List String) : List String → Option (List String)
  | [] => if w.isDirectory here || (w.file? here).isSome then some here else none
  | s :: rest =>
    if !w.isDirectory here then none
    else if s = ".." then w.walkFrom here.dropLast rest
    else w.walkFrom (here ++ [s]) rest

def resolve? (w : Workspace) (p : Segments) : Option (List String) :=
  w.walkFrom (if p.root = "" then w.current else []) p.parts

def isThere (w : Workspace) (p : Segments) : Bool := (w.resolve? p).isSome

def probe (w : Workspace) (path : String) : Bool :=
  w.isThere (.read path)

def content? (w : Workspace) (p : Segments) : Option Content :=
  (w.resolve? p).bind w.file?

def excludedNames : List String :=
  ["node_modules", "bower_components", "dist", "build", "out", "coverage", ".git", ".next",
   ".nuxt", ".cache", "vendor"]

def segmentsLe : List String → List String → Bool
  | [], _ => true
  | _ :: _, [] => false
  | a :: as, b :: bs => if a = b then segmentsLe as bs else Text.precedes a b

def waysBelow (w : Workspace) (dir : List String) : List (List String) :=
  ((w.files.filter fun e => dir.isPrefixOf e.1 && dir != e.1).map
    fun e => e.1.drop dir.length).mergeSort segmentsLe

def candidates (w : Workspace) (p : Segments) : List Segments :=
  match w.resolve? p with
  | none => []
  | some place =>
    if (w.file? place).isSome then (if p.language?.isSome then [p] else [])
    else
      ((w.waysBelow place).filter fun way => !way.any (excludedNames.contains ·)).filterMap
        fun way =>
          let q : Segments := ⟨p.root, p.parts ++ way⟩
          if q.language?.isSome then some q else none

def addNew (w : Workspace) (got : List Segments × List (List String)) (p : Segments) :
    List Segments × List (List String) :=
  match w.resolve? p with
  | none => got
  | some place => if place ∈ got.2 then got else (got.1 ++ [p], got.2 ++ [place])

def discover (w : Workspace) (paths : List Segments) : List Segments :=
  ((paths.flatMap w.candidates).foldl w.addNew ([], [])).1

def analyzeFile? (w : Workspace) (e : Engine) (p : Segments) : Option Outcome :=
  match p.language?, w.content? p with
  | some _, some content => some (e.analyze p.text content.toSource)
  | _, _ => none

def addFile (p : Segments) (found : Option Outcome) (rest : Outcome × List Segments) :
    Outcome × List Segments :=
  match found with
  | some outcome => (outcome ++ rest.1, rest.2)
  | none => (rest.1, p :: rest.2)

def analyzeAll (w : Workspace) (e : Engine) (files : List Segments) : Outcome × List Segments :=
  files.foldr (fun p rest => addFile p (w.analyzeFile? e p) rest) ({}, [])

end Workspace

end DesignLint
