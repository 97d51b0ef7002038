/-!
Ranges of a text. The tab stops of a snippet, the selection of an editor and the reach of a match
are all spans.
-/

namespace LatexSnippets

/-- The half-open range `[start, stop)`; with `start = stop` it is a caret position. -/
structure Span where
  start : Int
  stop : Int
  deriving DecidableEq, Repr, Inhabited

namespace Span

def caret (i : Int) : Span := ⟨i, i⟩

def isEmpty (s : Span) : Bool := s.start = s.stop

def shift (s : Span) (d : Int) : Span := ⟨s.start + d, s.stop + d⟩

def clamp (s : Span) (n : Nat) : Span :=
  let start := max 0 (min s.start n)
  ⟨start, max start (min s.stop n)⟩

end Span

end LatexSnippets
