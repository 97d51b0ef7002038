import LatexSnippets.Text.Basic
import LatexSnippets.Unicode.Letter

/-!
The operand of a fraction that ends at the caret: bracket groups, runs of letters, commands and
single characters of words, as many as stand next to each other. The scan goes backwards, so texts
are given in reverse here.
-/

namespace LatexSnippets.Latex.Operand

def opener? : Char → Option Char
  | ')' => some '('
  | '\x7d' => some '\x7b'
  | ']' => some '['
  | _ => none

/-- Commands that act as operators or relations; they belong to no operand. -/
def relations : List String :=
  ["cdot", "times", "div", "pm", "mp", "ast", "star", "circ", "bullet", "oplus", "otimes", "cap",
    "cup", "setminus", "land", "lor", "wedge", "vee", "le", "leq", "ge", "geq", "neq", "ne", "ll",
    "gg", "equiv", "approx", "sim", "simeq", "cong", "propto", "in", "notin", "ni", "subset",
    "subseteq", "supset", "supseteq", "to", "mapsto", "implies", "impliedby", "iff",
    "leftrightarrow", "rightarrow", "leftarrow", "Rightarrow", "Leftarrow", "mid", "parallel",
    "perp", "quad", "qquad"]

def isRelation (name : Text) : Bool := relations.any (·.toList = name)

/-- How far back the opening bracket is that balances `depth` closing ones. Other kinds of brackets
do not count. -/
def groupLength? (opening closing : Char) : (depth : Nat) → Text → Option Nat
  | _, [] => none
  | depth, c :: before =>
    if c = closing then (groupLength? opening closing (depth + 1) before).map (· + 1)
    else if c = opening then
      match depth with
      | 0 | 1 => some 1
      | depth + 1 => (groupLength? opening closing depth before).map (· + 1)
    else (groupLength? opening closing depth before).map (· + 1)

/-- A character that is a unit by itself. -/
def isUnit (c : Char) : Bool :=
  Unicode.isAlnum c || c = '_' || c = '^' || c = '\'' || c = '.'

/-- The length of the last unit of a text, given in reverse; none if nothing there can belong to an
operand. -/
def unitLength? : Text → Option Nat
  | [] => none
  | c :: before =>
    match opener? c with
    | some opening => (groupLength? opening c 1 before).map (· + 1)
    | none =>
      if Unicode.isAlpha c then
        let run := (c :: before).takeWhile Unicode.isAlpha
        match (c :: before).dropWhile Unicode.isAlpha with
        | '\\' :: _ => if isRelation run.reverse then none else some (run.length + 1)
        | _ => some run.length
      else if isUnit c then some 1
      else none

/-- The length of the operand at the end of a text, given in reverse. -/
def length : (fuel : Nat) → Text → Nat
  | 0, _ => 0
  | fuel + 1, before =>
    match unitLength? before with
    | none => 0
    | some n => n + length fuel (before.drop n)

def start (t : Text) : Nat := t.length - length t.length t.reverse

end Operand

inductive ScanError
  /-- The scan was to begin beyond the end of the text. -/
  | beyondEnd
  deriving DecidableEq, Repr

def ScanError.message : ScanError → String
  | .beyondEnd => "string index out of range"

/-- Where the operand that ends at the offset `caret` starts; `caret` itself if there is none. -/
def operandStart (t : Text) (caret : Int) : Except ScanError Int :=
  if caret ≤ 0 then .ok caret
  else if (t.length : Int) < caret then .error .beyondEnd
  else .ok (Operand.start (t.take caret.toNat))

end LatexSnippets.Latex
