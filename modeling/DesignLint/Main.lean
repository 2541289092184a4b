import DesignLint.CommandLine.Session
import DesignLint.Console.Icons
import DesignLint.Snapshot

namespace DesignLint

def Session.ofSnapshot (text : String) : Session :=
  match Value.read text with
  | .ok (.table fields) =>
    ⟨Snapshot.workspace ((Assoc.get? "files" fields).getD .null),
     Snapshot.environment ((Assoc.get? "env" fields).getD .null)⟩
  | _ => ⟨{}, []⟩

def Grid.lines (g : Grid) : List String :=
  g.title :: (g.columns :: g.rows).map (" | ".intercalate ·)

def Shown.lines : Shown → List String
  | .text s => [s]
  | .grid g => g.lines

def Response.written (encoding : String) (r : Response) : String :=
  String.join ((r.shown.flatMap Shown.lines).map (Console.line encoding)) ++ r.output

partial def readAll (stream : IO.FS.Stream) (got : String) : IO String := do
  let line ← stream.getLine
  if line.isEmpty then return got else readAll stream (got ++ line)

end DesignLint

open DesignLint in
def main (args : List String) : IO UInt32 := do
  let snapshot ← readAll (← IO.getStdin) ""
  let response := (Session.ofSnapshot snapshot).run args
  IO.print (response.written "utf-8")
  return UInt32.ofNat response.exitCode
