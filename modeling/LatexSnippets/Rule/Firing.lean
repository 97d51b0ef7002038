import LatexSnippets.Latex.Math
import LatexSnippets.Rule.Ranking

/-!
Firing: the best rule whose trigger ends at the caret puts its template in the trigger's place.
-/

namespace LatexSnippets

/-- Where a trigger starts that ends at the caret, and what its groups caught. -/
structure Hit where
  start : Nat
  captures : Captures
  deriving DecidableEq, Repr

/-- What can stop the search for a rule. -/
inductive FiringError
  | pattern (e : Pattern.Error)
  | numeral (e : Numeral.Error)
  deriving DecidableEq, Repr

namespace Rule

def literalHit? (t options before : Text) : Option Hit :=
  let start := before.length - t.length
  if t.isEmpty || !t.isSuffixOf before then none
  else if wordBoundary options && (before.take start).getLast?.any Unicode.isAlnum then none
  else some ⟨start, []⟩

/-- The captures that a template sees: a text template only the groups, others the whole match
first. -/
def capturesFor (m : Pattern.Match) : Template → Captures
  | .text _ => m.groups
  | _ => some m.matched :: m.groups

/-- A pattern hits where it matches at least one character. -/
def patternHit? (p : Pattern.Compiled) (template : Template) (before : Text) : Option Hit :=
  match p.search before with
  | none => none
  | some m => if m.start = m.stop then none else some ⟨m.start, capturesFor m template⟩

/-- Whether the trigger of a rule ends `before`, the text before the caret. -/
def hit (r : Rule) (before : Text) : Except FiringError (Option Hit) :=
  match r.trigger with
  | .literal t => .ok (literalHit? t r.options before)
  | .pattern source flags =>
    match Trigger.compile source flags with
    | .ok p => .ok (patternHit? p r.template before)
    -- A rule with a malformed pattern is passed over. No pattern is too deep to be read.
    | .error e => if e.isMalformed then .ok none else .error (.pattern e)

end Rule

/-- A rule that has fired. The offsets in `selection` and `fields` are those of `text`, the text
after the replacement; `start` and `stop` are those of the trigger before it. -/
structure Fired where
  text : Text
  selection : Span
  fields : List Span
  rule : Ranked
  start : Int
  stop : Int

namespace Fired

def ofExpansion (before after : Text) (caret : Int) (rule : Ranked) (start : Nat)
    (e : Expansion) : Fired where
  text := before.take start ++ e.text ++ after
  selection := e.entry.shift start
  fields := e.remaining.map (·.shift start)
  rule := rule
  start := start
  stop := caret

end Fired

/-- The first rule of a list that hits. -/
def firstHit (before : Text) : List Ranked → Except FiringError (Option (Ranked × Hit))
  | [] => .ok none
  | r :: rest => do
    match ← r.rule.hit before with
    | some h => return some (r, h)
    | none => firstHit before rest

/-- Fires the best rule at the offset `caret`. -/
def fire (t : Text) (caret : Int) (rules : List Rule) (forceMath autoOnly manualOnly : Bool) :
    Except FiringError (Option Fired) := do
  let before := t.upTo caret
  let inMath := forceMath || Latex.insideMath t caret
  match ← firstHit before (Ranked.rank rules ⟨inMath, autoOnly, manualOnly⟩) with
  | none => return none
  | some (r, h) =>
    match r.rule.template.compile h.captures [] with
    | .error e => throw (.numeral e)
    | .ok e => return some (.ofExpansion before (t.onward caret) caret r h.start e)

end LatexSnippets
