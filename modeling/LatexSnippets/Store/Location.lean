import LatexSnippets.Store.Path

/-!
Where the store is, as the environment has it.
-/

namespace LatexSnippets

structure Environment where
  /-- The user's home directory. -/
  home : Text
  /-- The directory for all that is kept, if it is to be another than the usual one. -/
  directory : Option Text

namespace Environment

def homeDirectory (e : Environment) : Text :=
  let t := (e.home.reverse.dropWhile (· = '/')).reverse
  if t.isEmpty then ['/'] else t

/-- The directory for all that is kept. A tilde alone or before a slash stands for the home
directory. -/
def storeDirectory (e : Environment) : Text :=
  match e.directory with
  | none | some [] => Path.join e.homeDirectory ".texflow"
  | some ['~'] => e.homeDirectory
  | some ('~' :: '/' :: rest) => e.homeDirectory ++ '/' :: rest
  | some t => t

def storePath (e : Environment) : Text := Path.join e.storeDirectory "store.json"

end Environment

end LatexSnippets
