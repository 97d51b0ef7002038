import LatexSnippets.Assoc
import LatexSnippets.Key.Combination

/-!
Which key combination does what. Every combination has at most one action, and binding it again
replaces that.
-/

namespace LatexSnippets

inductive Action
  | undo
  | redo
  | smartFraction
  | moveLineUp
  | moveLineDown
  | nextField
  | indent
  | deleteWord
  | deleteLine
  deriving DecidableEq, Repr

namespace Action

def all : List Action :=
  [.undo, .redo, .smartFraction, .moveLineUp, .moveLineDown, .nextField, .indent, .deleteWord,
    .deleteLine]

def name : Action → Text
  | .undo => "undo"
  | .redo => "redo"
  | .smartFraction => "smartFraction"
  | .moveLineUp => "moveLineUp"
  | .moveLineDown => "moveLineDown"
  | .nextField => "nextField"
  | .indent => "indent"
  | .deleteWord => "deleteWord"
  | .deleteLine => "deleteLine"

def ofName? (t : Text) : Option Action := all.find? (·.name = t)

end Action

inductive KeymapError
  | unknownAction (name : Text)
  | combination (e : Key.CombinationError)
  deriving DecidableEq, Repr

def KeymapError.message : KeymapError → String
  | .unknownAction name => "unknown editor action " ++ String.ofList name.quoted
  | .combination e => e.message

/-- Actions by key identifier, in the order in which they were first bound. -/
abbrev Keymap := Assoc Action

namespace Keymap

def standard : Keymap :=
  [("alt+/", .smartFraction), ("alt+up", .moveLineUp), ("alt+down", .moveLineDown),
    ("ctrl+z", .undo), ("ctrl+shift+z", .redo), ("ctrl+y", .redo),
    ("ctrl+backspace", .deleteWord), ("ctrl+shift+k", .deleteLine), ("tab", .nextField),
    ("enter", .indent)]

def normalize (combination : Text) : Except KeymapError Text :=
  (Key.normalizeCombination combination).mapError .combination

def readAction (name : Text) : Except KeymapError Action :=
  match Action.ofName? name with
  | some a => .ok a
  | none => .error (.unknownAction name)

/-- Binds a written combination to an action by name; also answers the identifier of the
combination. -/
def bind (m : Keymap) (combination action : Text) : Except KeymapError (Text × Keymap) := do
  let a ← readAction action
  let k ← normalize combination
  return (k, m.put k a)

/-- Removes a binding; also answers whether there was one. -/
def unbind (m : Keymap) (combination : Text) : Except KeymapError (Bool × Keymap) := do
  let k ← normalize combination
  return ((m.get? k).isSome, m.erase k)

def bindAll : Keymap → List (Text × Text) → Except KeymapError Keymap
  | m, [] => .ok m
  | m, (combination, action) :: rest => do
    let (_, m) ← bind m combination action
    bindAll m rest

/-- The keymap of bindings in order. Of bindings with equal text the last counts, at the place of
the first. -/
def ofBindings (bindings : List (Text × Text)) : Except KeymapError Keymap :=
  bindAll [] (Assoc.ofEntries bindings)

/-- The combinations and the names of their actions. -/
def toBindings (m : Keymap) : List (Text × Text) := m.map fun (k, a) => (k, a.name)

def copy (m : Keymap) : Except KeymapError Keymap := bindAll [] m.toBindings

/-- The combinations bound to an action. -/
def keysFor (m : Keymap) (action : Text) : List Text :=
  (m.filter (·.2.name = action)).map (·.1)

def actionFor? (m : Keymap) (e : KeyEvent) : Option Action := m.get? e.identifier

def actionForCombination (m : Keymap) (combination : Text) :
    Except KeymapError (Option Action) := do
  return m.get? (← normalize combination)

end Keymap

end LatexSnippets
