import LatexSnippets.Cli.Run

/-!
The program: it takes the files that a command may need from the disk, runs the command, puts
changed files back and prints what the command printed.
-/

namespace LatexSnippets.Cli.Disk

/-- What stands at a path whose directories are there. -/
def node? (p : Path) : IO (Option Node) := do
  try
    return some (.file (← IO.FS.readBinFile (String.ofList p.toText)))
  catch
    | .noFileOrDirectory .. => return none
    | _ => return some .directory

/-- Adds what stands on the way to a path, up to the first file. -/
def loadWay (tree : FileTree) : List Path → IO FileTree
  | [] => return tree
  | p :: rest => do
    match ← node? p with
    | none => return tree
    | some .directory => loadWay (tree.put p .directory) rest
    | some (.file content) => return tree.put p (.file content)

def load (paths : List Path) : IO FileTree :=
  paths.foldlM (fun tree p => loadWay tree p.stations) []

/-- Writes the file at a path, if it is new or has changed. -/
def save (before after : FileTree) (p : Path) : IO Unit := do
  match before.read p, after.read p with
  | .ok old, .ok new => if old != new then write new
  | .error _, .ok new => write new
  | _, .error _ => return
where
  write (content : ByteArray) : IO Unit := do
    p.parent.stations.forM fun q => IO.FS.createDirAll (String.ofList q.toText)
    IO.FS.writeBinFile (String.ofList p.resolved.toText) content

def environment : IO Environment := do
  let home ← IO.getEnv "HOME"
  let directory ← IO.getEnv "TEXFLOW_HOME"
  return ⟨(home.getD "").toList, directory.map String.toList⟩

/-- How much of a stack of a thousand levels is left where a command reads its store. -/
def levels : Nat := 979

/-- The files of a command line. -/
def filesOf (e : Environment) (args : List Text) : List Path :=
  match Command.read args with
  | some c => c.files e
  | none => []

end LatexSnippets.Cli.Disk

open LatexSnippets LatexSnippets.Cli in
def main (args : List String) : IO UInt32 := do
  let args := args.map String.toList
  let e ← Disk.environment
  let paths := Disk.filesOf e args
  let tree ← Disk.load paths
  let outcome := Cli.run e Disk.levels args tree
  paths.forM (Disk.save tree outcome.tree)
  (← IO.getStdout).putStr (String.ofList outcome.out)
  (← IO.getStderr).putStr (String.ofList outcome.err)
  if let some x := outcome.failure then IO.eprintln x.message
  return outcome.code.toUInt32
