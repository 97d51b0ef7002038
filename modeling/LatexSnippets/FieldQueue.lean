import LatexSnippets.Latex.Environment
import LatexSnippets.Span

/-!
The pending stops of the snippet being filled, the next one first. Stops are offsets of the live
text, so they are shifted with every change of it.
-/

namespace LatexSnippets

abbrev FieldQueue := List Span

/-- Where to go from a field. -/
inductive Advance
  | stop (s : Span)
  /-- The next stop lies beyond the environment around the caret: a column separator is due first.
  -/
  | separator
  | nothing
  deriving DecidableEq, Repr

namespace FieldQueue

/-- Moves the stops that start at or after `at_` by `d`; one that would start before the text is
dropped. -/
def shift (q : FieldQueue) (d at_ : Int) : FieldQueue :=
  if d = 0 then q
  else (q.map fun s => if at_ ≤ s.start then s.shift d else s).filter (0 ≤ ·.start)

def skipConsumed (q : FieldQueue) (caret : Int) : FieldQueue :=
  q.dropWhile fun s => s.isEmpty && s.start = caret

/-- Whether the environment around the caret closes at or before a stop. -/
def closesBefore (t : Text) (caret : Int) (s : Span) : Bool :=
  match Latex.enclosingTabular? t caret with
  | none => false
  | some name => (Latex.tabularEnd? t caret name).any fun i => (i : Int) ≤ s.start

/-- The next step and the queue after it. Without a text, environments do not count. -/
def advance (q : FieldQueue) (caret : Int) (t : Option Text) : Advance × FieldQueue :=
  match q.skipConsumed caret with
  | [] => (.nothing, [])
  | s :: rest =>
    if t.any (closesBefore · caret s) then (.separator, s :: rest) else (.stop s, rest)

end FieldQueue

end LatexSnippets
