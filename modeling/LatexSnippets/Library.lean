import LatexSnippets.Rule.Table
import LatexSnippets.Source.Keymap
import LatexSnippets.Source.Rules
import LatexSnippets.Store.Basic

/-!
The user's rules and keymap, kept as JSON in a store. Where nothing is kept, the built-in ones hold.
-/

namespace LatexSnippets

inductive LibraryError
  | store (e : StoreError)
  | rules (e : Source.RulesError)
  | keymap (e : Source.KeymapSourceError)
  deriving DecidableEq, Repr

def LibraryError.message : LibraryError → String
  | .store e => e.message
  | .rules e => e.message
  | .keymap e => e.message

abbrev LibraryM := ExceptT LibraryError (StateM Store)

namespace Library

/-- The keys name the format of what is kept under them; another format takes another key. -/
def rulesKey : Text := "texflow_rules_source_v4"

def keymapKey : Text := "texflow_keybindings_v1"

def ofStore (x : StoreM α) : LibraryM α := ExceptT.adapt .store x

def ofRules (x : Except Source.RulesError α) : LibraryM α := ExceptT.mk (pure (x.mapError .rules))

/-- The source of the rules that are kept. -/
def rulesSource? : LibraryM (Option Text) := ofStore (Store.value? rulesKey)

/-- The rules that are kept. -/
def keptRules? : LibraryM (Option (List Rule)) := do
  match ← rulesSource? with
  | none => return none
  | some source => return some (← ofRules (Source.readRules source))

def rules : LibraryM (List Rule) := do
  return (← keptRules?).getD RuleTable.all

def saveRules (rules : List Rule) : LibraryM Unit := do
  let source ← ofRules (Source.writeRules rules)
  ofStore (Store.put rulesKey source)

/-- Keeps a source of rules as it stands, if it can be read. -/
def saveRulesSource (source : Text) : LibraryM (List Rule) := do
  let rules ← ofRules (Source.readRules source)
  ofStore (Store.put rulesKey source)
  return rules

def resetRules : LibraryM Unit := ofStore (Store.forget rulesKey)

def keymap : LibraryM Keymap := do
  match ← ofStore (Store.value? keymapKey) with
  | none => return .standard
  | some source => ExceptT.mk (pure ((Source.readKeymap source).mapError .keymap))

def saveKeymap (m : Keymap) : LibraryM Unit :=
  ofStore (Store.put keymapKey (Source.writeKeymap m))

def resetKeymap : LibraryM Keymap := do
  ofStore (Store.forget keymapKey)
  return .standard

end Library

end LatexSnippets
