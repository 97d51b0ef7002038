import LatexSnippets.Library
import LatexSnippets.Store.Location
import LatexSnippets.Terminal.Markup
import LatexSnippets.Terminal.Table

/-!
What a command works with: the files, and what it prints.
-/

namespace LatexSnippets.Cli

/-- What no command has an answer to. -/
inductive Failure
  | library (e : LibraryError)
  | file (e : FileError)
  /-- A file is not UTF-8. -/
  | encoding
  | markup (e : Markup.Error)
  /-- Rules in a source name numbers too large to be dealt with. -/
  | rules (e : Source.RulesError)
  deriving DecidableEq, Repr

def Failure.message : Failure → String
  | .library e => e.message
  | .file e => e.message
  | .encoding => "not UTF-8"
  | .markup e => e.message
  | .rules e => e.message

/-- How a command ends before its end. -/
inductive Stop
  | exit (code : Nat)
  | failure (e : Failure)
  deriving DecidableEq, Repr

structure Session where
  /-- How deep the values in the store may be nested. -/
  levels : Nat
  tree : FileTree
  out : Text
  err : Text

abbrev SessionM := ExceptT Stop (StateM Session)

namespace Session

def fail (e : Failure) : SessionM α := throw (.failure e)

def echo (t : Text) : SessionM Unit := modify fun s => { s with out := s.out ++ t }

def rendered (markup : Text) : SessionM Text :=
  match Markup.render markup with
  | .ok t => return Cell.visible t
  | .error e => fail (.markup e)

/-- Prints a line of markup. -/
def print (markup : Text) : SessionM Unit := do
  echo (Cell.expandTabs 0 (← rendered markup) ++ ['\n'])

def complain (markup : Text) : SessionM Unit := do
  let t ← rendered markup
  modify fun s => { s with err := s.err ++ Cell.expandTabs 0 t ++ ['\n'] }

def refuse (code : Nat) (title : String) (message : Text) : SessionM α := do
  complain ("[red]".toList ++ title.toList ++ ":[/red] ".toList ++ Markup.escape message)
  throw (.exit code)

def printTable (t : Table) : SessionM Unit := do
  let rows ← t.rows.mapM fun row => row.mapM rendered
  echo ({ t with rows }.render.flatMap fun line => line ++ ['\n'])

/-- Does something with the library that is kept at a path. -/
def withStore (path : Path) (x : LibraryM α) : SessionM (Except LibraryError α) := do
  let s ← get
  let (r, store) := x.run.run (.file path s.levels s.tree 0)
  match store with
  | .file _ _ tree _ => set { s with tree }
  | .memory _ => pure ()
  return r

/-- As `withStore`, but an error ends the command. -/
def inStore (path : Path) (x : LibraryM α) : SessionM α := do
  match ← withStore path x with
  | .ok v => return v
  | .error e => fail (.library e)

/-- Line ends of all kinds as newlines. -/
def unifyLines : Text → Text
  | [] => []
  | '\r' :: '\n' :: rest => '\n' :: unifyLines rest
  | '\r' :: rest => '\n' :: unifyLines rest
  | c :: rest => c :: unifyLines rest

def readFile (path : Path) : SessionM Text := do
  match (← get).tree.read path with
  | .error e => fail (.file e)
  | .ok content =>
    match String.fromUTF8? content with
    | none => fail .encoding
    | some s => return unifyLines s.toList

def writeFile (path : Path) (t : Text) : SessionM Unit := do
  let s ← get
  match s.tree.write path (String.ofList t).toUTF8 with
  | .error e => fail (.file e)
  | .ok tree => set { s with tree }

end Session

end LatexSnippets.Cli
