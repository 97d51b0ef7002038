import LatexSnippets.Rule.Basic

/-!
Which rules may fire in a situation, and in what order they are tried: by priority, then by the
length of a literal trigger, then the later in the list first.
-/

namespace LatexSnippets

/-- Where and why rules are tried. -/
structure Situation where
  inMath : Bool
  /-- Only rules that fire while typing count. -/
  autoOnly : Bool
  /-- Only rules that wait to be asked for count. -/
  manualOnly : Bool
  deriving DecidableEq, Repr

namespace Rule

/-- Rules that wrap a selection never fire by themselves. -/
def isEligible (r : Rule) (s : Situation) : Bool :=
  !(s.autoOnly && !autoFire r.options) && !(s.manualOnly && autoFire r.options) &&
    allowsMode r.options s.inMath && !r.usesVisual

end Rule

/-- A rule with its place in the list of rules. -/
structure Ranked where
  rule : Rule
  index : Nat

namespace Ranked

def all (rules : List Rule) : List Ranked := rules.zipIdx.map fun (r, i) => ⟨r, i⟩

/-- Whether a rule is tried before another, or is the same. -/
def precedes (a b : Ranked) : Bool :=
  if a.rule.priority ≠ b.rule.priority then b.rule.priority < a.rule.priority
  else if a.rule.trigger.length ≠ b.rule.trigger.length then
    b.rule.trigger.length < a.rule.trigger.length
  else b.index ≤ a.index

/-- The eligible rules, the best first. -/
def rank (rules : List Rule) (s : Situation) : List Ranked :=
  ((all rules).filter (·.rule.isEligible s)).mergeSort precedes

end Ranked

end LatexSnippets
