import LatexSnippets.Pattern.Reader
import LatexSnippets.Pattern.Search

/-!
Triggers: the texts that make a rule fire when they end at the caret.
-/

namespace LatexSnippets

inductive Trigger
  | literal (t : Text)
  /-- A pattern by its source and option letters. -/
  | pattern (source flags : Text)
  deriving DecidableEq, Repr

namespace Trigger

/-- The options that letters stand for. The letters `g`, `u` and `y` are allowed and change nothing
in a search that is bound to the end of the text. -/
def options : Text → Except Pattern.Error Pattern.Options
  | [] => .ok .plain
  | c :: rest =>
    if ['i', 'm', 's', 'g', 'u', 'y'].elem c then
      (options rest).map (Pattern.Options.union (Pattern.Read.optionsOf [c]))
    else .error (.unknownOption c)

def anchored (source : Text) : Text := "(?:".toList ++ source ++ ")\\Z".toList

def compile (source flags : Text) : Except Pattern.Error Pattern.Compiled := do
  Pattern.compile (anchored source) (← options flags)

def letters (o : Pattern.Options) : Text :=
  (if o.ignoreCase then ['i'] else []) ++ (if o.multiLine then ['m'] else []) ++
    (if o.dotAll then ['s'] else [])

/-- The trigger that a pattern compiled by itself makes. -/
def ofCompiled (source : Text) (p : Pattern.Compiled) : Trigger :=
  .pattern source (letters p.options)

/-- Compiles a pattern by itself, under the letters `i`, `m`, `s` and `x`, and makes it a trigger.
-/
def ofRegex (source flags : Text) : Except Pattern.Error Trigger := do
  return ofCompiled source (← Pattern.compile source (Pattern.Read.optionsOf flags))

/-- How many characters are sure to be replaced, which ranks rules; a pattern counts as none. -/
def length : Trigger → Nat
  | .literal t => t.length
  | .pattern .. => 0

end Trigger

end LatexSnippets
