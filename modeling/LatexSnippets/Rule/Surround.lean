import LatexSnippets.Rule.Ranking

/-!
Rules that wrap a selected text when a single character is typed over it.
-/

namespace LatexSnippets

namespace Rule

def surrounds (r : Rule) (key : Text) (inMath : Bool) : Bool :=
  r.usesVisual && r.trigger = .literal key && allowsMode r.options inMath

end Rule

namespace Ranked

/-- Whether a rule is a better choice than an earlier one. -/
def better (best r : Ranked) : Ranked :=
  if best.rule.priority ≤ r.rule.priority then r else best

/-- The rule that wraps a selection when `key` is typed: of those with the highest priority, the
last. -/
def surround? (key : Text) (rules : List Rule) (inMath : Bool) : Option Ranked :=
  match (all rules).filter (·.rule.surrounds key inMath) with
  | [] => none
  | r :: rest => some (rest.foldl better r)

end Ranked

end LatexSnippets
