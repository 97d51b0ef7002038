import LatexSnippets.Text.Basic

/-!
Undo and redo: a line of snapshots with a pointer. A snapshot pushed below the end cuts off what
follows; one pushed at the end soon after another replaces it, so that one step of undo covers a
burst of typing.
-/

namespace LatexSnippets

structure Snapshot where
  text : Text
  caret : Int
  deriving DecidableEq, Repr, Inhabited

/-- The snapshots before the current one, nearest first, and those after it. -/
structure History where
  past : List Snapshot
  current : Snapshot
  future : List Snapshot
  /-- How long a burst of typing may pause, in seconds. -/
  window : Float
  /-- When the last snapshot was pushed. -/
  lastPush : Option Float

namespace History

def ofSnapshot (s : Snapshot) (window : Float) : History := ⟨[], s, [], window, none⟩

/-- The snapshots from the oldest to the newest. -/
def entries (h : History) : List Snapshot := h.past.reverse ++ h.current :: h.future

def length (h : History) : Nat := h.past.length + 1 + h.future.length

def canUndo (h : History) : Bool := !h.past.isEmpty

def canRedo (h : History) : Bool := !h.future.isEmpty

/-- Whether the last push is too long ago for the next one to join it. -/
def isStale (h : History) (now : Float) : Bool :=
  match h.lastPush with
  | none => true
  | some t => h.window < now - t

def push (h : History) (now : Float) (s : Snapshot) (immediate : Bool) : History :=
  if h.future.isEmpty && !(immediate || h.isStale now) then
    { h with current := s, lastPush := some now }
  else
    { h with past := h.current :: h.past, current := s, future := [], lastPush := some now }

/-- One step back, unless there is none. -/
def undo? (h : History) : Option History :=
  match h.past with
  | [] => none
  | s :: past => some { h with past := past, current := s, future := h.current :: h.future }

/-- One step forward, unless there is none. -/
def redo? (h : History) : Option History :=
  match h.future with
  | [] => none
  | s :: future => some { h with past := h.current :: h.past, current := s, future := future }

def reset (h : History) (s : Snapshot) : History := .ofSnapshot s h.window

end History

end LatexSnippets
