import LatexSnippets.FieldQueue
import LatexSnippets.History
import LatexSnippets.Keymap
import LatexSnippets.Rule.Firing

/-!
The state of an editor and the one way in which it is edited: `edit` shifts the pending stops,
records the new text and then sets text and selection.
-/

namespace LatexSnippets

structure Editor.Config where
  rules : List Rule
  keymap : Keymap
  /-- The whole text counts as math. -/
  forceMath : Bool
  /-- What the tab key inserts where nothing else is due. -/
  indent : Text
  /-- What goes between the columns of an environment. -/
  separator : Text

structure Editor where
  config : Editor.Config
  text : Text
  selection : Span
  fields : FieldQueue
  history : History
  /-- What the clock shows, in seconds. -/
  now : Float

namespace Editor

def ofText (config : Config) (window now : Float) (text : Text) (caret : Option Int) : Editor :=
  let selection := (Span.caret (caret.getD text.length)).clamp text.length
  { config, text, selection, now
    fields := []
    history := .ofSnapshot ⟨text, selection.stop⟩ window }

def caret (e : Editor) : Int := e.selection.stop

def selected (e : Editor) : Text := e.text.slice e.selection.start e.selection.stop

def inMath (e : Editor) : Bool :=
  e.config.forceMath || Latex.insideMath e.text e.selection.start

def wait (e : Editor) (seconds : Float) : Editor := { e with now := e.now + seconds }

def select (e : Editor) (s : Span) : Editor := { e with selection := s.clamp e.text.length }

def setFields (e : Editor) (stops : List Span) : Editor := { e with fields := stops }

def cancel (e : Editor) : Editor := e.setFields []

def shiftFields (e : Editor) (d at_ : Int) : Editor := { e with fields := e.fields.shift d at_ }

/-- Replaces what an editor goes by; what is not given stays. -/
def reload (e : Editor) (rules : Option (List Rule)) (keymap : Option Keymap)
    (forceMath : Option Bool) : Editor :=
  { e with config := { e.config with
      rules := rules.getD e.config.rules
      keymap := keymap.getD e.config.keymap
      forceMath := forceMath.getD e.config.forceMath } }

def inside (t : Text) (i : Int) : Int := max 0 (min i t.length)

/-- Records a text and shows it with a selection. -/
def record (e : Editor) (text : Text) (caret : Int) (immediate : Bool) (selection : Span) :
    Editor :=
  { e with
    text
    selection := selection.clamp text.length
    history := e.history.push e.now ⟨text, inside text caret⟩ immediate }

/-- Takes over a new text that differs by `d` characters at the offset `changeStart`. Without a
selection the caret is put at `caret`. -/
def edit (e : Editor) (text : Text) (caret changeStart d : Int) (immediate : Bool)
    (selection : Option Span) : Editor :=
  (e.shiftFields d changeStart).record text caret immediate
    (selection.getD (.caret (inside text caret)))

def splice (e : Editor) (i j : Int) (w : Text) (caret : Int) (selection : Option Span) : Editor :=
  e.edit (e.text.splice i j w) caret i (w.length - (j - i)) true selection

/-- Puts an expansion in place of what lies between `i` and `j`. An expansion without stops of its
own keeps the pending ones. -/
def applyExpansion (e : Editor) (i j : Int) (x : Expansion) : Editor :=
  let selection := x.entry.shift i
  let e := e.splice i j x.text selection.stop (some selection)
  if x.remaining.isEmpty then e else e.setFields (x.remaining.map (·.shift i))

def applyFired (e : Editor) (f : Fired) : Editor :=
  let e := e.edit f.text f.selection.stop f.stop (f.text.length - e.text.length) true
    (some f.selection)
  if f.fields.isEmpty then e else e.setFields f.fields

/-- What an operation leaves behind: the editor, and an answer or the failure that cut it short. -/
structure Outcome (α : Type) where
  editor : Editor
  answer : Except FiringError α

def Outcome.map (f : α → β) (o : Outcome α) : Outcome β := ⟨o.editor, o.answer.map f⟩

def fire (e : Editor) (t : Text) (caret : Int) (autoOnly manualOnly : Bool) :
    Except FiringError (Option Fired) :=
  LatexSnippets.fire t caret e.config.rules e.config.forceMath autoOnly manualOnly

/-- Takes over a text changed from outside: typed, pasted or deleted. If characters were inserted,
rules may fire at the caret; else the change joins the current burst of typing. -/
def changed (e : Editor) (text : Text) (caret changeStart : Int) (inserted : Bool) :
    Outcome (Option Fired) :=
  let shifted := e.shiftFields (text.length - e.text.length) changeStart
  let kept :=
    shifted.record text caret false (.caret (inside text caret))
  if inserted then
    match e.fire text caret true false with
    | .error x => ⟨shifted, .error x⟩
    | .ok (some f) => ⟨{ shifted with text }.applyFired f, .ok (some f)⟩
    | .ok none => ⟨kept, .ok none⟩
  else ⟨kept, .ok none⟩

/-- As `changed`, with the place of the change guessed from the caret, and insertion from the
length, where they are not given. -/
def change (e : Editor) (text : Text) (caret : Int) (changeStart : Option Int)
    (inserted : Option Bool) : Outcome (Option Fired) :=
  let d : Int := text.length - e.text.length
  e.changed text caret (changeStart.getD (if 0 < d then caret - d else caret))
    (inserted.getD (0 < d))

end Editor

end LatexSnippets
