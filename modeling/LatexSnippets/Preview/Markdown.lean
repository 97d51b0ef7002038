import LatexSnippets.Preview.Basic
import LatexSnippets.Text.Line
import LatexSnippets.Unicode.Blank

/-!
A small part of Markdown: paragraphs with formulas between dollar signs, and display formulas
between lines of two dollar signs.
-/

namespace LatexSnippets.Preview.Markdown

inductive Inline
  | char (c : Char)
  | formula (t : Text)
  deriving DecidableEq, Repr

/-- A formula, its opening dollar sign taken, and what follows it. No blank stands next to the
signs. -/
def readFormula (t : Text) : Option (Text × Text) :=
  match t.takeWhile (· != '$'), t.dropWhile (· != '$') with
  | c :: body, '$' :: after =>
    if Unicode.isBlank c || (c :: body).getLast?.any Unicode.isBlank then none
    else some (c :: body, after)
  | _, _ => none

theorem length_readFormula {t body after : Text} (h : readFormula t = some (body, after)) :
    after.length < t.length := by
  unfold readFormula at h
  split at h
  · next h₂ =>
    have := (List.dropWhile_suffix (fun c => c != '$') (l := t)).length_le
    rw [h₂] at this
    split at h
    · contradiction
    · simp only [Option.some.injEq, Prod.mk.injEq] at h
      simp only [List.length_cons, ← h.2] at *
      omega
  · contradiction

def inlines : Text → List Inline
  | [] => []
  | '$' :: rest =>
    match _h : readFormula rest with
    | some (body, after) => .formula body :: inlines after
    | none => .char '$' :: inlines rest
  | c :: rest => .char c :: inlines rest
termination_by t => t.length
decreasing_by
  all_goals simp only [List.length_cons]
  all_goals try omega
  have := length_readFormula ‹_›
  omega

/-- A character of running text; quotes of one stroke need no escape. -/
def escapeChar (c : Char) : Text := if c = '\'' then [c] else Preview.escapeChar c

def Inline.render : Inline → Text
  | .char c => escapeChar c
  | .formula t => "<span class=\"math\">\\(".toList ++ t ++ "\\)</span>".toList

inductive Block
  | paragraph (lines : List Text)
  | display (lines : List Text)
  deriving DecidableEq, Repr

def Block.render : Block → Text
  | .paragraph lines =>
    "<p>".toList ++ (inlines (Text.unlines lines)).flatMap Inline.render ++ "</p>\n".toList
  | .display lines =>
    "<div class=\"math\">$$\n".toList ++ Text.unlines lines ++ "\n$$</div>\n".toList

/-- Whether a line is not one that begins or ends a display formula. -/
def isInside (line : Text) : Bool := line != ['$', '$']

/-- The blocks of a document; `pending` holds the lines of the paragraph before, the last one first.
-/
def blocksFrom : (pending : List Text) → List Text → List Block
  | pending, [] => flush pending
  | pending, l :: ls =>
    if l.trim.isEmpty then flush pending ++ blocksFrom [] ls
    else if pending.isEmpty && !isInside l && !ls.all isInside then
      .display (ls.takeWhile isInside) :: blocksFrom [] (ls.dropWhile isInside).tail
    else blocksFrom (l :: pending) ls
termination_by _ ls => ls.length
decreasing_by
  all_goals simp only [List.length_cons]
  all_goals try omega
  have := (List.dropWhile_suffix isInside (l := ls)).length_le
  simp only [List.length_tail]
  omega
where
  flush (pending : List Text) : List Block :=
    if pending.isEmpty then [] else [.paragraph (pending.reverse.map Text.trim)]

def render (document : Text) : Text :=
  (blocksFrom [] document.lines).flatMap Block.render

end LatexSnippets.Preview.Markdown
