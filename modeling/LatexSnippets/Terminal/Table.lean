import LatexSnippets.Terminal.Cell

/-!
Tables with a title, a header and boxes around the cells. A table too wide for the terminal is made
to fit by cutting the cells of its widest column.
-/

namespace LatexSnippets

structure Column where
  title : Text
  alignsRight : Bool
  deriving DecidableEq, Repr

structure Table where
  title : Text
  columns : List Column
  rows : List (List Text)
  deriving DecidableEq, Repr

namespace Table

/-- How many cells a line of the terminal has. -/
def lineWidth : Nat := 80

def cellWidth (t : Text) : Nat := (t.lines.map Cell.width).foldl max 0

/-- The width of column `i` of a table that has all the room it wants. -/
def naturalWidth (t : Table) (i : Nat) (c : Column) : Nat :=
  max 1 ((t.rows.map fun row => cellWidth ((row[i]?).getD [])).foldl max (cellWidth c.title))

/-- Takes one cell from the first column of a given width. -/
def narrow (widest : Nat) : List Nat → List Nat
  | [] => []
  | w :: ws => if w = widest then (w - 1) :: ws else w :: narrow widest ws

def shrink : (excess : Nat) → List Nat → List Nat
  | 0, ws => ws
  | n + 1, ws => shrink n (narrow (ws.foldl max 0) ws)

def totalWidth (ws : List Nat) : Nat := ws.foldr Nat.add 0 + 3 * ws.length + 1

def widths (t : Table) : List Nat :=
  let ws := t.columns.zipIdx.map fun (c, i) => t.naturalWidth i c
  shrink (totalWidth ws - lineWidth) ws

def border (left line joint right : Char) (ws : List Nat) : Text :=
  left :: (Text.joinWith [joint] (ws.map fun w => List.replicate (w + 2) line) ++ [right])

def line (bar : Char) (cells : List Text) : Text :=
  bar :: (Text.joinWith [bar] (cells.map fun t => ' ' :: (t ++ [' '])) ++ [bar])

def align (c : Column) (w : Nat) (t : Text) : Text :=
  if c.alignsRight then Cell.alignRight w (Cell.cut w t) else Cell.alignLeft w (Cell.cut w t)

def rowLines (bar : Char) (columns : List Column) (ws : List Nat) (row : List Text) : List Text :=
  let cells := row.map Text.lines
  let height := (cells.map List.length).foldl max 1
  (List.range height).map fun k =>
    line bar (((columns.zip ws).zip cells).map fun ((c, w), ls) => align c w ((ls[k]?).getD []))

def render (t : Table) : List Text :=
  let ws := t.widths
  Cell.centre (totalWidth ws) t.title :: border '┏' '━' '┳' '┓' ws ::
    rowLines '┃' t.columns ws (t.columns.map Column.title) ++ border '┡' '━' '╇' '┩' ws ::
    t.rows.flatMap (rowLines '│' t.columns ws) ++ [border '└' '─' '┴' '┘' ws]

end Table

end LatexSnippets
