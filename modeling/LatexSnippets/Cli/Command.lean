import LatexSnippets.Cli.Arguments
import LatexSnippets.Text.Numeral

/-!
The commands of the program.
-/

namespace LatexSnippets.Cli

/-- What `type` starts from, and how it shows what it ends with. -/
structure Typing where
  keys : Text
  text : Text
  caret : Option Int
  math : Bool
  raw : Bool
  deriving DecidableEq, Repr

inductive Command
  | version
  /-- Replays a sequence of keys through an editor and shows the text. -/
  | type (t : Typing) (store : Option Text)
  | render (source : Text) (math : Bool)
  | listRules (mode : Text) (store : Option Text)
  /-- Writes the rules to a file or shows them. -/
  | exportRules (output : Option Text) (builtIn : Bool) (store : Option Text)
  | checkRules (path : Text)
  | importRules (path : Text) (store : Option Text)
  | resetRules (store : Option Text)
  | listKeys (store : Option Text)
  | bindKey (combination action : Text) (store : Option Text)
  | unbindKey (combination : Text) (store : Option Text)
  | resetKeys (store : Option Text)
  /-- Shows where the store is. -/
  | locate
  deriving DecidableEq, Repr

namespace Command

def flag (name : String) (letter : Option Char) : OptionSpec := ⟨name, letter, false⟩

def valued (name : String) (letter : Option Char) : OptionSpec := ⟨name, letter, true⟩

def storeOption : OptionSpec := valued "--store" none

def reading (specs : List OptionSpec) (build : Arguments → Option Command) (args : List Text) :
    Option Command :=
  (Arguments.read specs args).bind build

def store? (a : Arguments) : Option Text := a.value? "--store"

/-- An offset, if one is given; nothing if it is no integer. -/
def caret? (a : Arguments) : Option (Option Int) :=
  match a.value? "--caret" with
  | none => some none
  | some t => (Numeral.read t).toOption.map some

def readType : List Text → Option Command :=
  reading [valued "--text" (some 't'), valued "--caret" none, flag "--math" (some 'm'), storeOption,
      flag "--raw" none] fun a =>
    match a.operands, caret? a with
    | [keys], some caret =>
      some (.type
        ⟨keys, (a.value? "--text").getD [], caret, a.has "--math", a.has "--raw"⟩ (store? a))
    | _, _ => none

def readRender : List Text → Option Command :=
  reading [flag "--math" (some 'm')] fun a =>
    match a.operands with
    | [source] => some (.render source (a.has "--math"))
    | _ => none

def bare (c : Command) : List Text → Option Command :=
  reading [] fun a => if a.operands.isEmpty then some c else none

/-- A command that takes the path of a store and a number of operands. -/
def stored (build : Option Text → List Text → Option Command) : List Text → Option Command :=
  reading [storeOption] fun a => build (store? a) a.operands

def storedOnly (build : Option Text → Command) : List Text → Option Command :=
  stored fun store operands => if operands.isEmpty then some (build store) else none

def readListRules : List Text → Option Command :=
  reading [valued "--mode" none, storeOption] fun a =>
    if a.operands.isEmpty then
      some (.listRules ((a.value? "--mode").getD "all".toList) (store? a))
    else none

def readExportRules : List Text → Option Command :=
  reading [valued "--output" (some 'o'), flag "--defaults" none, storeOption] fun a =>
    if a.operands.isEmpty then
      some (.exportRules (a.value? "--output") (a.has "--defaults") (store? a))
    else none

def readCheckRules : List Text → Option Command :=
  reading [] fun a =>
    match a.operands with
    | [path] => some (.checkRules path)
    | _ => none

def rulesCommands : List (String × (List Text → Option Command)) :=
  [("list", readListRules), ("export", readExportRules), ("check", readCheckRules),
    ("import", stored fun store operands =>
      match operands with
      | [path] => some (.importRules path store)
      | _ => none),
    ("reset", storedOnly .resetRules)]

def keysCommands : List (String × (List Text → Option Command)) :=
  [("list", storedOnly .listKeys),
    ("bind", stored fun store operands =>
      match operands with
      | [combination, action] => some (.bindKey combination action store)
      | _ => none),
    ("unbind", stored fun store operands =>
      match operands with
      | [combination] => some (.unbindKey combination store)
      | _ => none),
    ("reset", storedOnly .resetKeys)]

/-- Reads the name of a command and its arguments. Options that stand before the name are those of
the whole group. -/
def group (specs : List OptionSpec) (commands : List (String × (List Text → Option Command)))
    (args : List Text) : Option Command :=
  match Arguments.readLeading specs args with
  | some (name :: rest) =>
    (commands.find? (·.1.toList = name)).bind fun (_, command) => command rest
  | _ => none

def commands : List (String × (List Text → Option Command)) :=
  [("version", bare .version), ("type", readType), ("render", readRender), ("where", bare .locate),
    ("rules", group [] rulesCommands), ("keys", group [] keysCommands)]

def read (args : List Text) : Option Command := group [flag "--verbose" (some 'v')] commands args

end Command

end LatexSnippets.Cli
