/-!
Sets of characters given by ascending ranges of code points.
-/

namespace LatexSnippets.Unicode

/-- Closed ranges of code points, ascending and apart from each other. -/
abbrev Ranges := List (Nat × Nat)

def Ranges.mem : Ranges → Nat → Bool
  | [], _ => false
  | (lo, hi) :: rest, c => if c < lo then false else c ≤ hi || Ranges.mem rest c

end LatexSnippets.Unicode
