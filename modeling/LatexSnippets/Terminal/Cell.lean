import LatexSnippets.Text.Line
import LatexSnippets.Unicode.Width

/-!
Text on a terminal: how many cells it takes, and how it is cut and padded to a number of cells.
-/

namespace LatexSnippets.Cell

def width (t : Text) : Nat := t.foldr (fun c n => Unicode.cells c + n) 0

def isControl (c : Char) : Bool :=
  c = '\x07' || c = '\x08' || c = '\x0b' || c = '\x0c' || c = '\r'

/-- Fills up tabs to the next column that is a multiple of eight. -/
def expandTabs : (column : Nat) → Text → Text
  | _, [] => []
  | _, '\n' :: rest => '\n' :: expandTabs 0 rest
  | k, '\t' :: rest =>
    let n := 8 - k % 8
    List.replicate n ' ' ++ expandTabs (k + n) rest
  | k, c :: rest => c :: expandTabs (k + Unicode.cells c) rest

def visible (t : Text) : Text := t.filter (!isControl ·)

def spaces (n : Nat) : Text := List.replicate n ' '

/-- The longest beginning of a text that takes at most `n` cells. -/
def beginning : (n : Nat) → Text → Text
  | _, [] => []
  | n, c :: rest =>
    if Unicode.cells c ≤ n then c :: beginning (n - Unicode.cells c) rest else []

/-- A text in at most `n` cells; one that is cut ends in an ellipsis. -/
def cut (n : Nat) (t : Text) : Text :=
  if width t ≤ n then t
  else
    let start := beginning (n - 1) t
    start ++ spaces (n - 1 - width start) ++ ['…']

def alignLeft (n : Nat) (t : Text) : Text := t ++ spaces (n - width t)

def alignRight (n : Nat) (t : Text) : Text := spaces (n - width t) ++ t

def centre (n : Nat) (t : Text) : Text :=
  let left := (n - width t) / 2
  spaces left ++ t ++ spaces (n - width t - left)

end LatexSnippets.Cell
