import LatexSnippets.Json.Writer
import LatexSnippets.Source.Issue

/-!
Keymaps as JSON: a list of combinations with their actions.
-/

namespace LatexSnippets.Source

inductive KeymapSourceError
  /-- The first issue and the number of all. -/
  | invalid (first : Issue) (count : Nat)
  | keymap (e : KeymapError)
  deriving DecidableEq, Repr

def KeymapSourceError.message : KeymapSourceError → String
  | .invalid first count =>
    "invalid keybindings: " ++ first.message ++ " (" ++ toString count ++ " error(s))"
  | .keymap e => "invalid keybindings: " ++ e.message

def bindingRecord : List Text → Json → Checked (Text × Action) :=
  record fun path ms =>
    (required path ms "combination" text).and (required path ms "action" action)

/-- Reads a keymap. -/
def readKeymap (source : Text) : Except KeymapSourceError Keymap :=
  match records bindingRecord source with
  | .error issues => .error (.invalid (issues.headD ⟨[], .invalidJson⟩) issues.length)
  | .ok bs =>
    (Keymap.bindAll [] (bs.map fun (combination, a) => (combination, a.name))).mapError .keymap

/-- Writes a keymap, in ASCII. -/
def writeKeymap (m : Keymap) : Text :=
  Json.write true (.array (m.toBindings.map fun (combination, action) =>
    .object [("combination", .text combination), ("action", .text action)]))

end LatexSnippets.Source
