import DesignLint.Tree.Rows
import DesignLint.Value.Reader
import DesignLint.Workspace

namespace DesignLint.Snapshot

def itemAt (v : Value) (i : Nat) : Value :=
  match v with
  | .list items => (items[i]?).getD .null
  | _ => .null

def textAt (v : Value) (i : Nat) : String :=
  ((itemAt v i).asText?).getD ""

def offsetAt (v : Value) (i : Nat) : Nat :=
  match itemAt v i with
  | .int n => n.toNat
  | _ => 0

def parentOf (row : Value) : Option Nat :=
  match itemAt row 0 with
  | .int (.ofNat n) => some n
  | _ => none

def node (row : Value) : ParseNode where
  type := textAt row 1
  start := offsetAt row 2
  stop := offsetAt row 3
  named := (itemAt row 4).isPresent
  field := if textAt row 5 = "" then none else some (textAt row 5)

def bare (size : Nat) : ParseTree := .node ⟨"program", 0, size, true, none⟩ []

def tree (rows : Value) : ParseTree :=
  match rows with
  | .list items => (Tree.ofRows (items.map fun row => (parentOf row, node row))).getD (bare 0)
  | _ => bare 0

def hexBytes : List Char → List UInt8
  | a :: b :: rest =>
    UInt8.ofNat ((Value.Reader.hexValue? a).getD 0 * 16 + (Value.Reader.hexValue? b).getD 0) ::
      hexBytes rest
  | _ => []

def bytes? (fields : Fields) (text hex : String) : Option (List UInt8) :=
  match Assoc.get? text fields, Assoc.get? hex fields with
  | some (.text s), _ => some (Text.Utf8.encode s)
  | _, some (.text s) => some (hexBytes s.toList)
  | _, _ => none

def sourceFile (fields : Fields) : SourceFile where
  source := (bytes? fields "source" "source_hex").getD []
  tree := tree ((Assoc.get? "tree" fields).getD .null)

def content (entry : Value) : Content :=
  match entry with
  | .table fields =>
    if (Assoc.get? "tree" fields).isSome then .source (sourceFile fields)
    else .bytes (((bytes? fields "text" "hex").or (bytes? fields "source" "source_hex")).getD [])
  | _ => .bytes []

-- No path spells this name, so nothing is reached by way of the directories above it.
def home : List String := [""]

def add (w : Workspace) (path : String) (entry : Value) : Workspace :=
  let place := home ++ (Segments.read path).parts
  if Text.endsWith path "/" then { w with directories := w.directories ++ [place] }
  else { w with files := w.files ++ [(place, content entry)] }

def workspace (v : Value) : Workspace :=
  match v with
  | .table entries => entries.foldl (fun w e => add w e.1 e.2) { current := home }
  | .list paths => paths.foldl (fun w p => add w (p.asText?.getD "") .null) { current := home }
  | _ => { current := home }

def environment (v : Value) : Environment :=
  match v with
  | .table entries => entries.filterMap fun e => e.2.asText?.map fun s => (e.1, s)
  | _ => []

end DesignLint.Snapshot
