import LatexSnippets.Text.Basic

/-!
Paths of files: steps from the root or from the directory that one is in.
-/

namespace LatexSnippets

structure Path where
  absolute : Bool
  steps : List Text
  deriving DecidableEq, Repr

namespace Path

/-- Empty steps and single dots lead nowhere. -/
def ofText (t : Text) : Path :=
  ⟨t.head? = some '/', (Text.splitAt '/' t).filter fun s => !s.isEmpty && s != ['.']⟩

def toText (p : Path) : Text :=
  let t := Text.joinWith ['/'] p.steps
  if p.absolute then '/' :: t
  else if t.isEmpty then ['.']
  else t

def parent (p : Path) : Path := ⟨p.absolute, p.steps.dropLast⟩

/-- Steps with every double dot taken together with the step before it. -/
def resolve : List Text → List Text → List Text
  | done, [] => done
  | done, s :: rest => resolve (if s = ['.', '.'] then done.dropLast else done ++ [s]) rest

def resolved (p : Path) : Path := ⟨p.absolute, resolve [] p.steps⟩

/-- The beginnings of a list but the empty one, shortest first. -/
def beginnings : List Text → List (List Text)
  | [] => []
  | s :: rest => [s] :: (beginnings rest).map (s :: ·)

/-- The directories on the way to a path, and the path itself, from the outside in. -/
def way (p : Path) : List Path := (beginnings p.steps).map (⟨p.absolute, ·⟩)

/-- The places that a path leads through, and its own. -/
def stations (p : Path) : List Path := p.way.map resolved

def join (a b : Text) : Text :=
  if b.head? = some '/' then b
  else if a.isEmpty || a.getLast? = some '/' then a ++ b
  else a ++ '/' :: b

end Path

end LatexSnippets
