import LatexSnippets.Editor.Typing

/-!
Everything that can be asked of an editor from outside, and the editors that this leads to.
-/

namespace LatexSnippets

inductive Operation
  | select (start : Int) (stop : Option Int)
  | edit (text : Text) (caret changeStart d : Int) (immediate : Bool) (selection : Option Span)
  | change (text : Text) (caret : Int) (changeStart : Option Int) (inserted : Option Bool)
  | press (k : KeyEvent)
  /-- The clock stands still meanwhile; typing that takes time is a run of presses. -/
  | typeText (t : Text)
  | feedKeys (sequence : Text)
  | nextField
  | expand
  | smartFraction
  /-- Up with a negative direction, else down. -/
  | moveLine (direction : Int)
  | deleteWord
  | deleteLine
  | newline
  | undo
  | redo
  | cancel
  | reload (rules : Option (List Rule)) (keymap : Option Keymap) (forceMath : Option Bool)

namespace Editor

/-- The editor that an operation leaves behind, whether it answers or fails. -/
def perform (e : Editor) : Operation → Editor
  | .select start stop => e.select ⟨start, stop.getD start⟩
  | .edit text caret changeStart d immediate selection =>
    e.edit text caret changeStart d immediate selection
  | .change text caret changeStart inserted => (e.change text caret changeStart inserted).editor
  | .press k => (e.press k).editor
  | .typeText t => (e.typeText t).editor
  | .feedKeys sequence =>
    match e.feedKeys sequence with
    | .ok o => o.editor
    | .error _ => e
  | .nextField => e.nextField.editor
  | .expand => e.expand.editor
  | .smartFraction => e.smartFraction.1
  | .moveLine direction => (e.moveLine (direction < 0)).1
  | .deleteWord => e.deleteWord.1
  | .deleteLine => e.deleteLine.1
  | .newline => e.newline.1
  | .undo => e.undo.1
  | .redo => e.redo.1
  | .cancel => e.cancel
  | .reload rules keymap forceMath => e.reload rules keymap forceMath

/-- Operations one after another, each with what the clock shows by then. -/
def run (e : Editor) (steps : List (Float × Operation)) : Editor :=
  steps.foldl (fun e step => { e with now := step.1 }.perform step.2) e

/-- An editor that operations lead to from a new one. -/
def Reachable (e : Editor) : Prop :=
  ∃ config window now text caret steps, e = (ofText config window now text caret).run steps

theorem run_induction {P : Editor → Prop} {e : Editor} (h : P e)
    (step : ∀ e now o, P e → P ({ e with now := now }.perform o)) (steps : List (Float × Operation)) :
    P (e.run steps) := by
  induction steps generalizing e with
  | nil => exact h
  | cons s steps ih => exact ih (step e s.1 s.2 h)

theorem Reachable.step {e : Editor} (h : e.Reachable) (now : Float) (o : Operation) :
    ({ e with now := now }.perform o).Reachable := by
  obtain ⟨config, window, start, text, caret, steps, rfl⟩ := h
  refine ⟨config, window, start, text, caret, steps ++ [(now, o)], ?_⟩
  simp only [run, List.foldl_append]
  rfl

/-- A new editor with the standard keys and a single rule, the caret at the end of its text. -/
def withRule (trigger template text : String) : Editor :=
  ofText ⟨[.ofTexts trigger template []], .standard, false, "  ", " & "⟩ 1 0 text none

theorem reachable_withRule (trigger template text : String) :
    (withRule trigger template text).Reachable :=
  ⟨_, _, _, _, _, [], rfl⟩

/-- An editor with the standard keys and no rules, a part of its text selected. -/
def withSelection (text : String) (start stop : Int) : Editor :=
  (ofText ⟨[], .standard, false, "  ", " & "⟩ 1 0 text none).select ⟨start, stop⟩

theorem reachable_withSelection (text : String) (start stop : Int) :
    (withSelection text start stop).Reachable :=
  ⟨_, _, 0, _, _, [(0, .select start (some stop))], rfl⟩

end Editor

end LatexSnippets
