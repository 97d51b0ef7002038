import LatexSnippets.Editor.Basic
import LatexSnippets.Latex.Operand
import LatexSnippets.Text.Line
import LatexSnippets.Text.Trim

/-!
Commands of the editor. Each answers whether it did anything.
-/

namespace LatexSnippets.Editor

def restore (e : Editor) : Option History → Editor × Bool
  | none => (e, false)
  | some h =>
    (({ e with fields := [], history := h, text := h.current.text }).select
      (.caret h.current.caret), true)

def undo (e : Editor) : Editor × Bool := e.restore e.history.undo?

def redo (e : Editor) : Editor × Bool := e.restore e.history.redo?

/-- The field syntax of a fraction with a given numerator: the denominator is entered first. -/
def fraction (numerator : Text) : Text :=
  "\\frac\x7b".toList ++ numerator ++ "\x7d\x7b$1\x7d$0".toList

/-- Makes the selection, or else the operand before the caret, the numerator of a fraction. -/
def smartFraction (e : Editor) : Editor × Bool :=
  let ⟨start, stop⟩ := e.selection
  let start := if start = stop then (Latex.Operand.start (e.text.upTo stop) : Int) else start
  if start = stop then (e, false)
  else
    let numerator := Piece.escape (e.text.slice start stop)
    (e.applyExpansion start stop (.ofText (fraction numerator)), true)

/-- The first and the last line that the selection covers. A selection that ends just after a
newline does not cover the line that begins there. -/
def selectedLines (e : Editor) : Nat × Nat :=
  let ⟨start, stop⟩ := e.selection
  let last := e.text.lineIndex stop
  (e.text.lineIndex start,
    if start < stop && (e.text.upTo stop).getLast? = some '\n' then last - 1 else last)

/-- The lines with those from `first` to `last` and the one above swapped, and the length of that
one. -/
def raise? (lines : List Text) (first last : Nat) : Option (List Text × Nat) :=
  match first with
  | 0 => none
  | above + 1 =>
    (lines[above]?).map fun neighbour =>
      (lines.take above ++ (lines.drop first).take (last + 1 - first) ++ [neighbour] ++
        lines.drop (last + 1), neighbour.length)

/-- The lines with those from `first` to `last` and the one below swapped, and the length of that
one. -/
def lower? (lines : List Text) (first last : Nat) : Option (List Text × Nat) :=
  (lines[last + 1]?).map fun neighbour =>
    (lines.take first ++ [neighbour] ++ (lines.drop first).take (last + 1 - first) ++
      lines.drop (last + 2), neighbour.length)

/-- Swaps the selected lines with the line above or below. Pending stops cannot follow and are
dropped. -/
def moveLine (e : Editor) (up : Bool) : Editor × Bool :=
  let (first, last) := e.selectedLines
  let lines := e.text.lines
  match if up then raise? lines first last else lower? lines first last with
  | none => (e, false)
  | some (lines, n) =>
    let selection := e.selection.shift (if up then -(n + 1) else n + 1)
    (e.cancel.edit (Text.unlines lines) selection.start 0 0 true (some selection), true)

def charClass (c : Char) : Nat :=
  if Unicode.isBlank c then 0 else if Unicode.isWord c then 1 else 2

def lastRun (t : Text) : Nat :=
  match t.reverse with
  | [] => 0
  | c :: before => 1 + (before.takeWhile fun d => charClass d = charClass c).length

def deleteWord (e : Editor) : Editor × Bool :=
  let ⟨start, stop⟩ := e.selection
  if start ≠ stop then (e.splice start stop [] start none, true)
  else if start = 0 then (e, false)
  else
    let cut := start - lastRun (e.text.upTo start)
    (e.splice cut start [] cut none, true)

/-- Deletes the lines that the selection touches, with the newline after them or, at the end of the
text, the one before. -/
def deleteLine (e : Editor) : Editor × Bool :=
  if e.text.isEmpty then (e, false)
  else
    let start := e.text.lineStart e.selection.start
    let stop := e.text.lineEnd e.selection.stop
    if stop < e.text.length then (e.splice start (stop + 1) [] start none, true)
    else
      let cut := start - 1
      let caret := if cut < start then (e.text.splice cut stop []).lineStart cut else cut
      (e.splice cut stop [] caret none, true)

/-- Whether a row of an environment is to be closed before a new line. -/
def endsRow (line : Text) : Bool :=
  let line := line.trim
  !line.isEmpty && !"\\begin".toList.isPrefixOf line && !"\\end".toList.isPrefixOf line &&
    line.getLast? ≠ some '\\'

/-- What breaks the line: a newline and the indent, in an environment after closing the row. -/
def lineBreak (e : Editor) : Text :=
  let start := e.selection.start
  let broken := '\n' :: e.text.indentBefore start
  let closes :=
    (Latex.enclosingTabular? e.text start).isSome && endsRow (e.text.lineBefore start)
  if closes then ' ' :: '\\' :: '\\' :: broken else broken

def newline (e : Editor) : Editor × Bool :=
  let ⟨start, stop⟩ := e.selection
  (e.splice start stop e.lineBreak (start + e.lineBreak.length) none, true)

def isClosing (c : Char) : Bool := ['\x7d', ']', ')', '$', '>', '"', '\''].elem c

/-- What the tab key does when there is no field to go to and no rule to expand: separate columns,
step over a closing character, or indent. -/
def tabInsert (e : Editor) : Editor :=
  let ⟨start, stop⟩ := e.selection
  if (Latex.enclosingTabular? e.text start).isSome then
    e.splice start stop e.config.separator (start + e.config.separator.length) none
  else if start = stop && (e.text.onward start).head?.any isClosing then
    e.select (.caret (start + 1))
  else e.splice start stop e.config.indent (start + e.config.indent.length) none

def tabExpand (e : Editor) : Outcome Bool :=
  if e.selection.isEmpty then
    match e.fire e.text e.selection.start false true with
    | .error x => ⟨e, .error x⟩
    | .ok (some f) => ⟨e.applyFired f, .ok true⟩
    | .ok none => ⟨e.tabInsert, .ok true⟩
  else ⟨e.tabInsert, .ok true⟩

/-- Goes to the next field; else expands a rule, separates columns, steps over a closing character
or indents. -/
def nextField (e : Editor) : Outcome Bool :=
  let (step, rest) := e.fields.advance e.selection.start (some e.text)
  let e := e.setFields rest
  match step with
  | .stop s => ⟨e.select s, .ok true⟩
  | .separator | .nothing => e.tabExpand

/-- Fires the best rule at the caret, whether it waits to be asked for or not. -/
def expand (e : Editor) : Outcome Bool :=
  if e.selection.isEmpty then
    match e.fire e.text e.selection.start false false with
    | .error x => ⟨e, .error x⟩
    | .ok (some f) => ⟨e.applyFired f, .ok true⟩
    | .ok none => ⟨e, .ok false⟩
  else ⟨e, .ok false⟩

def done (r : Editor × Bool) : Outcome Bool := ⟨r.1, .ok r.2⟩

def act (e : Editor) : Action → Outcome Bool
  | .undo => done e.undo
  | .redo => done e.redo
  | .smartFraction => done e.smartFraction
  | .moveLineUp => done (e.moveLine true)
  | .moveLineDown => done (e.moveLine false)
  | .nextField => e.nextField
  | .indent => done e.newline
  | .deleteWord => done e.deleteWord
  | .deleteLine => done e.deleteLine

end LatexSnippets.Editor
