import LatexSnippets.Text.Basic

/-!
Lines of a text, found from offsets into it. A line ends before its newline.
-/

namespace LatexSnippets.Text

def lines (t : Text) : List Text := splitAt '\n' t

def unlines (ls : List Text) : Text := joinWith ['\n'] ls

def lineBefore (t : Text) (i : Int) : Text :=
  ((t.upTo i).reverse.takeWhile (· ≠ '\n')).reverse

def lineStart (t : Text) (i : Int) : Nat := (t.upTo i).length - (t.lineBefore i).length

def lineEnd (t : Text) (i : Int) : Nat := (t.find? ['\n'] i).getD t.length

/-- How many newlines stand before the offset `i`. -/
def lineIndex (t : Text) (i : Int) : Nat := Text.count '\n' (t.upTo i)

/-- The spaces and tabs that the line begins with, as far as the offset `i`. -/
def indentBefore (t : Text) (i : Int) : Text :=
  (t.lineBefore i).takeWhile fun c => c = ' ' || c = '\t'

end LatexSnippets.Text
