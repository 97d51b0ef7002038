import LatexSnippets.Json.Writer
import LatexSnippets.Rule.Basic
import LatexSnippets.Rule.Variables
import LatexSnippets.Source.Issue

/-!
Rules as JSON. A trigger or template given as a plain text is short for a tagged record; patterns
and expressions are compiled when they are read, so that a broken rule is reported with its place.
-/

namespace LatexSnippets

namespace Source

inductive TriggerRecord
  | text (t : Text)
  | literal (t : Text)
  | pattern (source flags : Text)
  deriving DecidableEq, Repr

inductive TemplateRecord
  | text (t : Text)
  | expression (source : Text)
  deriving DecidableEq, Repr

structure RuleRecord where
  trigger : TriggerRecord
  template : TemplateRecord
  options : Text
  priority : Int
  description : Text
  deriving DecidableEq, Repr

/-- A plain text or a tagged record. A value that is neither has the issues of both. -/
def textOr (ofText : Text → α) (tagged : List Text → Json → Checked α) (path : List Text)
    (v : Json) : Checked α :=
  match v with
  | .text t => .ok (ofText t)
  | v =>
    match tagged path v with
    | .ok x => .ok x
    | .error issues => .error (⟨path ++ ["str".toList], .notText⟩ :: issues)

/-- A record whose `type` tells what fields it has. -/
def tagged (kind : Text → Option (List Text → Assoc Json → Checked α)) (path : List Text)
    (v : Json) : Checked α :=
  match v with
  | .object ms =>
    let ms := Json.members ms
    match ms.get? "type" with
    | some (.text t) =>
      match kind t with
      | some check => check (path ++ [t]) ms
      | none => fail path .unknownKind
    | _ => fail path .unknownKind
  | _ => fail path .notObject

def literalRecord (path : List Text) (ms : Assoc Json) : Checked TriggerRecord :=
  (required path ms "text" text).map .literal

def patternRecord (path : List Text) (ms : Assoc Json) : Checked TriggerRecord :=
  (Checked.and (required path ms "source" text) (optional path ms "flags" text [])).map
    fun (source, flags) => .pattern source flags

def triggerRecord : List Text → Json → Checked TriggerRecord :=
  textOr .text (tagged fun t =>
    if t = "literal".toList then some literalRecord
    else if t = "pattern".toList then some patternRecord
    else none)

def templateRecord : List Text → Json → Checked TemplateRecord :=
  textOr .text (tagged fun t =>
    if t = "text".toList then some fun path ms => (required path ms "text" text).map .text
    else if t = "expression".toList then
      some fun path ms => (required path ms "source" text).map .expression
    else none)

def ruleRecord : List Text → Json → Checked RuleRecord :=
  record fun path ms =>
    ((required path ms "trigger" triggerRecord).and
      ((required path ms "template" templateRecord).and
        ((optional path ms "options" text []).and
          ((optional path ms "priority" integer 0).and
            (optional path ms "description" text []))))).map
      fun (trigger, template, options, priority, description) =>
        ⟨trigger, template, options, priority, description⟩

inductive RuleError
  | pattern (e : Pattern.Error)
  | expression (e : Expr.Error)
  deriving DecidableEq, Repr

namespace RuleRecord

def buildPattern (source flags : Text) : Except RuleError Trigger := do
  let source := Variables.expandStandard source
  let _ ← (Trigger.compile source flags).mapError .pattern
  return .pattern source flags

def buildTrigger (r : RuleRecord) : Except RuleError Trigger :=
  match r.trigger with
  | .text t => if Rule.regex r.options then buildPattern t [] else .ok (.literal t)
  | .literal t => .ok (.literal t)
  | .pattern source flags => buildPattern source flags

def buildTemplate (r : RuleRecord) : Except RuleError Template :=
  match r.template with
  | .text t => .ok (.text t)
  | .expression source => ((Interpolated.compile source).mapError .expression).map .interpolated

def build (r : RuleRecord) : Except RuleError Rule := do
  return ⟨← r.buildTrigger, ← r.buildTemplate, r.options, r.priority, r.description⟩

def label (r : RuleRecord) : Text :=
  match r.trigger with
  | .text t | .literal t => t.quoted
  | .pattern source _ => '/' :: (source ++ ['/'])

end RuleRecord

/-- Why a source of rules cannot be loaded or written. -/
inductive RulesError
  /-- The first issue and the number of all. -/
  | invalid (first : Issue) (count : Nat)
  | badPattern (index : Nat) (label : Text) (e : Pattern.Error)
  | badExpression (index : Nat) (label : Text) (e : Expr.Error)
  /-- A template computed by the host cannot be written. -/
  | unwritable (index : Nat) (trigger : Trigger)
  /-- A count or number too large to be dealt with. -/
  | pattern (e : Pattern.Error)
  | numeral (e : Numeral.Error)
  deriving DecidableEq, Repr

def counted (first : Issue) (count : Nat) : String :=
  first.message ++ " (" ++ toString count ++ " error(s))"

def triggerText : Trigger → String
  | .literal t => "LiteralTrigger(text=" ++ String.ofList t.quoted ++ ")"
  | .pattern source flags =>
    "PatternTrigger(source=" ++ String.ofList source.quoted ++ ", flags=" ++
      String.ofList flags.quoted ++ ")"

/-- Only an unknown option is worth telling. -/
def patternMessage (e : Pattern.Error) : String :=
  match e with
  | .unknownOption _ => ": " ++ e.message
  | _ => ""

def RulesError.message : RulesError → String
  | .invalid first count => "invalid rule source: " ++ counted first count
  | .badPattern index label e =>
    "rule #" ++ toString index ++ " " ++ String.ofList label ++ ": bad pattern" ++ patternMessage e
  | .badExpression index label e =>
    "rule #" ++ toString index ++ " " ++ String.ofList label ++ ": bad expression: " ++ e.message
  | .unwritable index trigger =>
    "rule #" ++ toString index ++ " (" ++ triggerText trigger ++
      ") uses a Python function template and cannot be serialized"
  | .pattern e => e.message
  | .numeral e => e.message

def RuleError.at (index : Nat) (label : Text) : RuleError → RulesError
  | .pattern e => if e.isMalformed then .badPattern index label e else .pattern e
  | .expression (.numeral e) => .numeral e
  | .expression e => .badExpression index label e

def buildFrom : Nat → List RuleRecord → Except RulesError (List Rule)
  | _, [] => .ok []
  | i, r :: rs => do
    let rule ← r.build.mapError (·.at i r.label)
    return rule :: (← buildFrom (i + 1) rs)

def readRules (source : Text) : Except RulesError (List Rule) :=
  match records ruleRecord source with
  | .error issues => .error (.invalid (issues.headD ⟨[], .invalidJson⟩) issues.length)
  | .ok rs => buildFrom 0 rs

def taggedJson (kind : Text) (fields : List (Text × Text)) : Json :=
  .object (("type", .text kind) :: fields.map fun (name, t) => (name, .text t))

/-- A literal trigger is written as a plain text unless that would be read as a pattern. -/
def triggerJson (options : Text) : Trigger → Json
  | .pattern source flags => taggedJson "pattern" [("source", source), ("flags", flags)]
  | .literal t => if Rule.regex options then taggedJson "literal" [("text", t)] else .text t

def templateJson (index : Nat) (trigger : Trigger) : Template → Except RulesError Json
  | .text t => .ok (.text t)
  | .interpolated i => .ok (taggedJson "expression" [("source", i.source)])
  | .host _ => .error (.unwritable index trigger)

/-- A rule as a record; a priority of zero and an empty description are left out. -/
def ruleJson (index : Nat) (r : Rule) : Except RulesError Json := do
  let template ← templateJson index r.trigger r.template
  return .object
    ([("trigger".toList, triggerJson r.options r.trigger), ("template".toList, template),
        ("options".toList, Json.text r.options)] ++
      (if r.priority = 0 then [] else [("priority".toList, Json.int r.priority)]) ++
      (if r.description.isEmpty then [] else [("description".toList, Json.text r.description)]))

def ruleJsonFrom : Nat → List Rule → Except RulesError (List Json)
  | _, [] => .ok []
  | i, r :: rs => do return (← ruleJson i r) :: (← ruleJsonFrom (i + 1) rs)

def writeRules (rules : List Rule) : Except RulesError Text := do
  return Json.write false (.array (← ruleJsonFrom 0 rules))

end Source

end LatexSnippets
