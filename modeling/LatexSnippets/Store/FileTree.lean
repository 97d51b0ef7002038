import LatexSnippets.Store.Path

/-!
Files and directories by their paths. The directory one is in and the root are always there.
-/

namespace LatexSnippets

inductive Node
  | directory
  | file (content : ByteArray)

inductive FileError
  | missing
  | isDirectory
  | notDirectory
  /-- A file stands where a directory is to be made. -/
  | occupied
  deriving DecidableEq, Repr

def FileError.message : FileError → String
  | .missing => "no such file or directory"
  | .isDirectory => "is a directory"
  | .notDirectory => "not a directory"
  | .occupied => "file exists"

abbrev FileTree := List (Path × Node)

namespace FileTree

def node? (t : FileTree) (p : Path) : Option Node :=
  if p.steps.isEmpty then some .directory else (t.find? (·.1 = p)).map (·.2)

def put (t : FileTree) (p : Path) (n : Node) : FileTree := (p, n) :: t.filter (·.1 ≠ p)

def walk (t : FileTree) : List Path → Except FileError Unit
  | [] => .ok ()
  | p :: rest =>
    match t.node? p with
    | none => .error .missing
    | some (.file _) => .error .notDirectory
    | some .directory => walk t rest

/-- What stands at a path. Every step before the last one must lead to a directory. -/
def find (t : FileTree) (p : Path) : Except FileError (Option Node) := do
  t.walk p.parent.stations
  return t.node? p.resolved

def holds (t : FileTree) (p : Path) : Bool :=
  match t.find p with
  | .ok (some _) => true
  | _ => false

def read (t : FileTree) (p : Path) : Except FileError ByteArray := do
  match ← t.find p with
  | none => throw .missing
  | some .directory => throw .isDirectory
  | some (.file content) => return content

/-- Puts a file in a directory that is there, in place of any file of that path. -/
def write (t : FileTree) (p : Path) (content : ByteArray) : Except FileError FileTree := do
  match ← t.find p with
  | some .directory => throw .isDirectory
  | _ => return t.put p.resolved (.file content)

def makeEach (t : FileTree) : List Path → Except FileError FileTree
  | [] => .ok t
  | p :: rest =>
    match t.node? p with
    | some .directory => makeEach t rest
    | none => makeEach (t.put p .directory) rest
    | some (.file _) => .error (if rest.isEmpty then .occupied else .notDirectory)

/-- Makes a directory and those on the way to it, as far as they are missing. -/
def makeDirectories (t : FileTree) (p : Path) : Except FileError FileTree :=
  t.makeEach p.stations

end FileTree

end LatexSnippets
