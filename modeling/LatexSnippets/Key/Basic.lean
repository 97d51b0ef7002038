import LatexSnippets.Text.Basic
import LatexSnippets.Unicode.Case
import LatexSnippets.Unicode.Letter

/-!
Keys: presses, the names of keys, and identifiers such as `ctrl+shift+z`. An identifier lists the
modifiers in one order, so that each combination has one spelling.
-/

namespace LatexSnippets

inductive Modifier
  | ctrl
  | alt
  | shift
  | metaKey
  deriving DecidableEq, Repr

namespace Modifier

def all : List Modifier := [.ctrl, .alt, .shift, .metaKey]

def name : Modifier → Text
  | .ctrl => "ctrl"
  | .alt => "alt"
  | .shift => "shift"
  | .metaKey => "meta"

def aliases : List (Text × Modifier) :=
  [("control", .ctrl), ("option", .alt), ("cmd", .metaKey), ("command", .metaKey),
    ("super", .metaKey), ("win", .metaKey)]

def ofName? (t : Text) : Option Modifier :=
  match (aliases.find? (·.1 = t)).map (·.2) with
  | some m => some m
  | none => all.find? (·.name = t)

end Modifier

structure Modifiers where
  ctrl : Bool
  alt : Bool
  shift : Bool
  metaKey : Bool
  deriving DecidableEq, Repr

namespace Modifiers

def none : Modifiers := ⟨false, false, false, false⟩

def has (ms : Modifiers) : Modifier → Bool
  | .ctrl => ms.ctrl
  | .alt => ms.alt
  | .shift => ms.shift
  | .metaKey => ms.metaKey

def add (ms : Modifiers) : Modifier → Modifiers
  | .ctrl => { ms with ctrl := true }
  | .alt => { ms with alt := true }
  | .shift => { ms with shift := true }
  | .metaKey => { ms with metaKey := true }

def ofList (l : List Modifier) : Modifiers := l.foldl add none

def toList (ms : Modifiers) : List Modifier := Modifier.all.filter ms.has

end Modifiers

namespace Key

def aliases : List (Text × Text) :=
  [("arrowup", "up"), ("arrowdown", "down"), ("arrowleft", "left"), ("arrowright", "right"),
    ("esc", "escape"), ("return", "enter"), ("cr", "enter"), ("bs", "backspace"),
    ("del", "delete"), (" ", "space"), ("spacebar", "space"), ("pageup", "pageUp"),
    ("pagedown", "pageDown"), ("plus", "+")]

def resolve (t : Text) : Text := ((aliases.find? (·.1 = t)).map (·.2)).getD t

/-- The one name of a key. Only letters and longer names lose their case. -/
def normalizeName : Text → Text
  | [c] => if Unicode.isAlpha c then Unicode.lower [c] else resolve [c]
  | t => resolve (Unicode.lower t)

def identifier (ms : Modifiers) (name : Text) : Text :=
  Text.joinWith ['+'] (ms.toList.map Modifier.name ++ [name])

end Key

structure KeyEvent where
  key : Text
  mods : Modifiers
  deriving DecidableEq, Repr

namespace KeyEvent

def plain (key : Text) : KeyEvent := ⟨key, .none⟩

def name (e : KeyEvent) : Text := Key.normalizeName e.key

def identifier (e : KeyEvent) : Text := Key.identifier e.mods e.name

def isCommand (e : KeyEvent) : Bool := e.mods.ctrl || e.mods.alt || e.mods.metaKey

def char? (e : KeyEvent) : Option Char :=
  if e.isCommand then none
  else if e.name = "space".toList then some ' '
  else match e.key with
    | [c] => some c
    | _ => none

/-- The press that types a character; a newline is typed by the enter key. -/
def ofChar (c : Char) : KeyEvent := plain (if c = '\n' then "enter" else [c])

end KeyEvent

end LatexSnippets
