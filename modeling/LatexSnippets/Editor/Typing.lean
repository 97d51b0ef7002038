import LatexSnippets.Editor.Command
import LatexSnippets.Key.Sequence
import LatexSnippets.Rule.Surround

/-!
Key presses. A key with an action does that; a typed character is paired, stepped over, wrapped
around the selection or inserted.
-/

namespace LatexSnippets.Editor

def closer? : Char → Option Char
  | '(' => some ')'
  | '\x7b' => some '\x7d'
  | '[' => some ']'
  | '"' => some '"'
  | '\'' => some '\''
  | '$' => some '$'
  | _ => none

/-- Closing characters that typing steps over where they stand already. -/
def isOvertyped (c : Char) : Bool := [')', ']', '\x7d', '"', '\'', '$'].elem c

def nextChar? (e : Editor) : Option Char := (e.text.onward e.selection.start).head?

/-- Puts a pair around the selection. A character that closes itself is left to be stepped over. -/
def pair? (e : Editor) (c : Char) : Option Editor :=
  match closer? c with
  | none => none
  | some close =>
    let ⟨start, stop⟩ := e.selection
    if start = stop && c = close && e.nextChar? = some c then none
    else
      let inner := e.text.slice start stop
      some (e.splice start stop (c :: (inner ++ [close])) (start + 1 + inner.length) none)

def overtype? (e : Editor) (c : Char) : Option Editor :=
  if e.selection.isEmpty && isOvertyped c && e.nextChar? = some c then
    some (e.select (.caret (e.selection.start + 1)))
  else none

def surround? (e : Editor) (c : Char) : Option (Outcome Bool) :=
  if e.selection.isEmpty then none
  else
    match Ranked.surround? [c] e.config.rules e.inMath with
    | none => none
    | some r =>
      let ⟨start, stop⟩ := e.selection
      match r.rule.template.compile [] (Piece.escape (e.text.slice start stop)) with
      | .error x => some ⟨e, .error (.numeral x)⟩
      | .ok x => some ⟨e.applyExpansion start stop x, .ok true⟩

def insert (e : Editor) (w : Text) : Outcome Bool :=
  let ⟨start, stop⟩ := e.selection
  (e.changed (e.text.splice start stop w) (start + w.length) start !w.isEmpty).map fun _ => true

def type (e : Editor) (c : Char) : Outcome Bool :=
  match e.pair? c with
  | some e => ⟨e, .ok true⟩
  | none =>
    match e.overtype? c with
    | some e => ⟨e, .ok true⟩
    | none =>
      match e.surround? c with
      | some o => o
      | none => e.insert [c]

/-- Deletes what lies between `i` and `j` as part of the current burst of typing. -/
def erase (e : Editor) (i j changeStart : Int) : Outcome Bool :=
  (e.changed (e.text.splice i j []) i changeStart false).map fun _ => true

/-- Deletes the selection, the character before the caret, or an empty pair around it. -/
def backspace (e : Editor) : Outcome Bool :=
  let ⟨start, stop⟩ := e.selection
  if start ≠ stop then e.erase start stop start
  else if start = 0 then ⟨e, .ok false⟩
  else
    let close := ((e.text.upTo start).getLast?).bind closer?
    if close.isSome && close = e.nextChar? then
      ⟨e.splice (start - 1) (start + 1) [] (start - 1) none, .ok true⟩
    else e.erase (start - 1) start (start - 1)

/-- Deletes the selection or the character after the caret. -/
def deleteForward (e : Editor) : Outcome Bool :=
  let ⟨start, stop⟩ := e.selection
  if start ≠ stop then e.erase start stop start
  else if (e.text.length : Int) ≤ start then ⟨e, .ok false⟩
  else e.erase start (start + 1) (start + 1)

def pressSpecial (e : Editor) (k : KeyEvent) : Outcome Bool :=
  if k.isCommand then ⟨e, .ok false⟩
  else if k.name = "backspace".toList then e.backspace
  else if k.name = "delete".toList then e.deleteForward
  else if k.name = "enter".toList then e.insert ['\n']
  else if k.name = "tab".toList then e.insert ['\t']
  else ⟨e, .ok false⟩

/-- Handles a key press; answers whether it was consumed. -/
def press (e : Editor) (k : KeyEvent) : Outcome Bool :=
  match e.config.keymap.actionFor? k with
  | some a => (e.act a).map fun _ => true
  | none =>
    if k.name = "escape".toList then ⟨e.cancel, .ok false⟩
    else
      match k.char? with
      | some c => e.type c
      | none => e.pressSpecial k

/-- Handles key presses one after another, up to one that fails. -/
def pressAll (e : Editor) : List KeyEvent → Outcome Unit
  | [] => ⟨e, .ok ()⟩
  | k :: ks =>
    match e.press k with
    | ⟨e, .error x⟩ => ⟨e, .error x⟩
    | ⟨e, .ok _⟩ => pressAll e ks

def typeText (e : Editor) (t : Text) : Outcome Unit := e.pressAll (t.map KeyEvent.ofChar)

/-- Handles the presses that a sequence in angle notation writes. -/
def feedKeys (e : Editor) (sequence : Text) : Except Key.SequenceError (Outcome Unit) :=
  (Key.readSequence sequence).map e.pressAll

end LatexSnippets.Editor
