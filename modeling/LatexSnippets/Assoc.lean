import LatexSnippets.Text.Basic

/-!
Tables with text keys that remember the order in which keys first came in.
-/

namespace LatexSnippets

abbrev Assoc (α : Type) := List (Text × α)

namespace Assoc

def get? (m : Assoc α) (k : Text) : Option α := (m.find? (·.1 = k)).map (·.2)

/-- Sets the value of a key: a key that is there keeps its place, a new one goes last. -/
def put : Assoc α → Text → α → Assoc α
  | [], k, v => [(k, v)]
  | (k', v') :: rest, k, v => if k' = k then (k, v) :: rest else (k', v') :: put rest k v

def erase (m : Assoc α) (k : Text) : Assoc α := m.filter (·.1 ≠ k)

def keys (m : Assoc α) : List Text := m.map (·.1)

/-- The table that results from setting the entries one after another. -/
def ofEntries (entries : List (Text × α)) : Assoc α :=
  entries.foldl (fun m e => m.put e.1 e.2) []

end Assoc

end LatexSnippets
