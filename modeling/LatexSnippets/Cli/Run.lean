import LatexSnippets.Cli.Command
import LatexSnippets.Cli.Session
import LatexSnippets.Editor.Typing
import LatexSnippets.Preview.Markdown

/-!
What each command does.
-/

namespace LatexSnippets.Cli

/-- What a run of the program leaves behind. -/
structure Outcome where
  code : Nat
  out : Text
  err : Text
  failure : Option Failure
  tree : FileTree

/-- What is wrong with a source of rules, unless it is a number too large to be dealt with. -/
def sourceMessage? : Source.RulesError → Option Text
  | .pattern _ | .numeral _ => none
  | e => some e.message.toList

namespace Session

def version : SessionM Unit := print "texflow 0.1.0"

def keptRules (p : Path) : SessionM (List Rule) := do
  match ← withStore p Library.rules with
  | .ok rules => return rules
  | .error (.rules e) =>
    match sourceMessage? e with
    | some message => refuse 1 "Stored rules are invalid" message
    | none => fail (.library (.rules e))
  | .error e => fail (.library e)

/-- The text with a bar at the caret, or with brackets around the selection. -/
def shownBuffer (e : Editor) : Text :=
  let ⟨start, stop⟩ := e.selection
  if start = stop then e.text.upTo start ++ '│' :: e.text.onward start
  else e.text.upTo start ++ '[' :: e.selected ++ ']' :: e.text.onward stop

def shownStop (s : Span) : Text :=
  if s.isEmpty then Numeral.ofInt s.start
  else Numeral.ofInt s.start ++ '-' :: Numeral.ofInt s.stop

def shownState (e : Editor) : Text :=
  let pending := if e.fields.isEmpty then "none".toList
    else Text.joinWith [',', ' '] (e.fields.map shownStop)
  let ⟨start, stop⟩ := e.selection
  "[dim]selection ".toList ++ Numeral.ofInt start ++ '-' :: Numeral.ofInt stop ++
    "  pending fields: ".toList ++ pending ++ "  history: ".toList ++
    Numeral.ofNat e.history.length ++ "[/dim]".toList

def typed (config : Editor.Config) (t : Typing) : SessionM Editor := do
  match (Editor.ofText config 1 0 t.text t.caret).feedKeys t.keys with
  | .error e => refuse 2 "Bad key sequence" e.message
  | .ok ⟨_, .error (.numeral e)⟩ => refuse 2 "Bad key sequence" e.message
  | .ok ⟨_, .error (.pattern e)⟩ => fail (.rules (.pattern e))
  | .ok ⟨e, .ok _⟩ => return e

def type (p : Path) (t : Typing) : SessionM Unit := do
  let rules ← keptRules p
  let keymap ← inStore p Library.keymap
  let e ← typed ⟨rules, keymap, t.math, "  ".toList, " & ".toList⟩ t
  if t.raw then echo (e.text ++ ['\n'])
  else
    print (Markup.escape (shownBuffer e))
    print (shownState e)

def render (source : Text) (math : Bool) : SessionM Unit :=
  echo (Preview.render (fun t => some (Preview.Markdown.render t))
    (if math then .math else .text) source)

/-- A pattern stands between slashes; a long one is cut. -/
def shownTrigger : Trigger → Text
  | .literal t => t
  | .pattern source _ =>
    let shown := if 48 < source.length then source.take 45 ++ "...".toList else source
    '/' :: (shown ++ ['/'])

def shownTemplate : Template → Text
  | .text t => t
  | .interpolated i => if i.source.isEmpty then "<python function>" else i.source
  | .host _ => "<python function>"

def ruleRow (r : Ranked) : List Text :=
  [Numeral.ofNat r.index, Markup.escape (shownTrigger r.rule.trigger),
    Markup.escape ((shownTemplate r.rule.template).replace ['\n'] ['⏎']), r.rule.options,
    if r.rule.priority = 0 then [] else Numeral.ofInt r.rule.priority,
    Markup.escape r.rule.description]

def rulesTable (rules : List Ranked) : Table where
  title := "Rules (".toList ++ Numeral.ofNat rules.length ++ [')']
  columns := [⟨"#", true⟩, ⟨"Trigger", false⟩, ⟨"Template", false⟩, ⟨"Options", false⟩,
    ⟨"Priority", true⟩, ⟨"Description", false⟩]
  rows := rules.map ruleRow

def listRules (p : Path) (mode : Text) : SessionM Unit := do
  let rules ← keptRules p
  if mode = "all".toList then printTable (rulesTable (Ranked.all rules))
  else if mode = "math".toList then
    printTable (rulesTable (Ranked.rank rules ⟨true, false, false⟩))
  else if mode = "text".toList then
    printTable (rulesTable (Ranked.rank rules ⟨false, false, false⟩))
  else refuse 2 "Unknown mode" mode

def exportRules (p : Path) (output : Option Text) (builtIn : Bool) : SessionM Unit := do
  let rules ← if builtIn then pure RuleTable.all else keptRules p
  match Source.writeRules rules, output with
  | .error e, _ => fail (.rules e)
  | .ok source, none => echo (source ++ ['\n'])
  | .ok source, some output =>
    let output := Path.ofText output
    writeFile output (source ++ ['\n'])
    print ("[green]Wrote ".toList ++ Numeral.ofNat rules.length ++ " rules to[/green] ".toList ++
      Markup.escape output.toText)

def checkRules (file : Path) : SessionM Unit := do
  match Source.readRules (← readFile file) with
  | .ok rules =>
    print ("[green]OK[/green] ".toList ++ Numeral.ofNat rules.length ++ " rules".toList)
  | .error e =>
    match sourceMessage? e with
    | some message => refuse 1 "Invalid" message
    | none => fail (.rules e)

def importRules (p file : Path) : SessionM Unit := do
  match ← withStore p (Library.saveRulesSource (← readFile file)) with
  | .ok rules =>
    print ("[green]Imported ".toList ++ Numeral.ofNat rules.length ++ " rules[/green]".toList)
  | .error (.rules e) =>
    match sourceMessage? e with
    | some message => refuse 1 "Not imported" message
    | none => fail (.rules e)
  | .error e => fail (.library e)

def resetRules (p : Path) : SessionM Unit := do
  inStore p Library.resetRules
  print "[green]Rules reset to defaults[/green]"

/-- Bindings by action, those of one action by combination. -/
def sortedBindings (m : Keymap) : List (Text × Text) :=
  m.toBindings.mergeSort fun a b => a.2 < b.2 || a.2 = b.2 && !(b.1 < a.1)

def keysTable (m : Keymap) : Table where
  title := "Keybindings"
  columns := [⟨"Keys", false⟩, ⟨"Action", false⟩]
  rows := (sortedBindings m).map fun (combination, action) => [combination, action]

def listKeys (p : Path) : SessionM Unit := do
  printTable (keysTable (← inStore p Library.keymap))

def bindKey (p : Path) (combination action : Text) : SessionM Unit := do
  let m ← inStore p Library.keymap
  match m.bind combination action with
  | .error e => refuse 1 "Cannot bind" e.message
  | .ok (key, m) =>
    inStore p (Library.saveKeymap m)
    print ("[green]".toList ++ key ++ "[/green] → ".toList ++ action)

def unbindKey (p : Path) (combination : Text) : SessionM Unit := do
  let m ← inStore p Library.keymap
  match m.unbind combination with
  | .error e => refuse 1 "Cannot unbind" e.message
  | .ok (false, _) =>
    print ("[yellow]Nothing bound to ".toList ++ Markup.escape combination ++ "[/yellow]".toList)
  | .ok (true, m) =>
    inStore p (Library.saveKeymap m)
    print ("[green]Unbound ".toList ++ Markup.escape combination ++ "[/green]".toList)

def resetKeys (p : Path) : SessionM Unit := do
  let _ ← inStore p Library.resetKeymap
  print "[green]Keybindings reset to defaults[/green]"

end Session

namespace Command

def path (e : Environment) (store : Option Text) : Path := .ofText (store.getD e.storePath)

def perform (e : Environment) : Command → SessionM Unit
  | .version => Session.version
  | .type t store => Session.type (path e store) t
  | .render source math => Session.render source math
  | .listRules mode store => Session.listRules (path e store) mode
  | .exportRules output builtIn store => Session.exportRules (path e store) output builtIn
  | .checkRules file => Session.checkRules (.ofText file)
  | .importRules file store => Session.importRules (path e store) (.ofText file)
  | .resetRules store => Session.resetRules (path e store)
  | .listKeys store => Session.listKeys (path e store)
  | .bindKey combination action store => Session.bindKey (path e store) combination action
  | .unbindKey combination store => Session.unbindKey (path e store) combination
  | .resetKeys store => Session.resetKeys (path e store)
  | .locate => Session.print e.storePath

def files (e : Environment) : Command → List Path
  | .version | .render .. | .locate => []
  | .checkRules file => [.ofText file]
  | .importRules file store => [path e store, .ofText file]
  | .exportRules output _ store => path e store :: (output.map Path.ofText).toList
  | .type _ store | .listRules _ store | .resetRules store | .listKeys store
  | .bindKey _ _ store | .unbindKey _ store | .resetKeys store => [path e store]

def run (e : Environment) (levels : Nat) (c : Command) (tree : FileTree) : Outcome :=
  let (r, s) := (c.perform e).run.run ⟨levels, tree, [], []⟩
  match r with
  | .ok _ => ⟨0, s.out, s.err, none, s.tree⟩
  | .error (.exit code) => ⟨code, s.out, s.err, none, s.tree⟩
  | .error (.failure x) => ⟨1, s.out, s.err, some x, s.tree⟩

end Command

def run (e : Environment) (levels : Nat) (args : List Text) (tree : FileTree) : Outcome :=
  match Command.read args with
  | some c => c.run e levels tree
  | none => ⟨2, [], "usage error\n", none, tree⟩

end LatexSnippets.Cli
