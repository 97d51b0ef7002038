import LatexSnippets.Assoc
import LatexSnippets.Cli.Arguments
import LatexSnippets.Cli.Command
import LatexSnippets.Cli.Run
import LatexSnippets.Cli.Session
import LatexSnippets.Editor.Basic
import LatexSnippets.Editor.Command
import LatexSnippets.Editor.Typing
import LatexSnippets.Expr.Basic
import LatexSnippets.Expr.Eval
import LatexSnippets.Expr.Parser
import LatexSnippets.Expr.Token
import LatexSnippets.FieldQueue
import LatexSnippets.History
import LatexSnippets.Json.Basic
import LatexSnippets.Json.Reader
import LatexSnippets.Json.Writer
import LatexSnippets.Key.Basic
import LatexSnippets.Key.Combination
import LatexSnippets.Key.Sequence
import LatexSnippets.Keymap
import LatexSnippets.Latex.Environment
import LatexSnippets.Latex.Math
import LatexSnippets.Latex.Operand
import LatexSnippets.Library
import LatexSnippets.Main
import LatexSnippets.Pattern.Basic
import LatexSnippets.Pattern.Class
import LatexSnippets.Pattern.Reader
import LatexSnippets.Pattern.Search
import LatexSnippets.Preview.Basic
import LatexSnippets.Preview.Markdown
import LatexSnippets.Proofs.Anchoring
import LatexSnippets.Proofs.Assoc
import LatexSnippets.Proofs.Captures
import LatexSnippets.Proofs.Editor.Brackets
import LatexSnippets.Proofs.Editor.Caret
import LatexSnippets.Proofs.Editor.Edits
import LatexSnippets.Proofs.Editor.Failures
import LatexSnippets.Proofs.Editor.Following
import LatexSnippets.Proofs.Editor.Operation
import LatexSnippets.Proofs.Editor.Press
import LatexSnippets.Proofs.Editor.Recording
import LatexSnippets.Proofs.Editor.Replacement
import LatexSnippets.Proofs.Editor.Snippet
import LatexSnippets.Proofs.Editor.Sound
import LatexSnippets.Proofs.Editor.Stops
import LatexSnippets.Proofs.Editor.Surround
import LatexSnippets.Proofs.Editor.TakingBack
import LatexSnippets.Proofs.Editor.TypedTrigger
import LatexSnippets.Proofs.Editor.Undo
import LatexSnippets.Proofs.Except
import LatexSnippets.Proofs.Expr.Numbers
import LatexSnippets.Proofs.Expr.Printing
import LatexSnippets.Proofs.Expr.Roundtrip
import LatexSnippets.Proofs.Expr.Tokens
import LatexSnippets.Proofs.FieldQueue
import LatexSnippets.Proofs.Fields
import LatexSnippets.Proofs.Firing
import LatexSnippets.Proofs.History
import LatexSnippets.Proofs.Json.Writing
import LatexSnippets.Proofs.Key
import LatexSnippets.Proofs.Keymap
import LatexSnippets.Proofs.Mending
import LatexSnippets.Proofs.Numeral
import LatexSnippets.Proofs.Pattern.Agree
import LatexSnippets.Proofs.Pattern.Counts
import LatexSnippets.Proofs.Pattern.Enclosed
import LatexSnippets.Proofs.Pattern.Running
import LatexSnippets.Proofs.Pattern.Search
import LatexSnippets.Proofs.Ranking
import LatexSnippets.Proofs.Source.Failures
import LatexSnippets.Proofs.Source.Rules
import LatexSnippets.Proofs.Span
import LatexSnippets.Proofs.Template.Filling
import LatexSnippets.Proofs.Template.Interpolated
import LatexSnippets.Proofs.Template.Layout
import LatexSnippets.Proofs.Template.Node
import LatexSnippets.Proofs.Template.Outline
import LatexSnippets.Proofs.Template.Placeholder
import LatexSnippets.Proofs.Template.Reading
import LatexSnippets.Proofs.Template.Substitution
import LatexSnippets.Proofs.Text
import LatexSnippets.Proofs.Unicode.Case
import LatexSnippets.Proofs.Variables
import LatexSnippets.Rule.Basic
import LatexSnippets.Rule.Firing
import LatexSnippets.Rule.Ranking
import LatexSnippets.Rule.Surround
import LatexSnippets.Rule.Table
import LatexSnippets.Rule.Variables
import LatexSnippets.Source.Issue
import LatexSnippets.Source.Keymap
import LatexSnippets.Source.Rules
import LatexSnippets.Span
import LatexSnippets.Store.Basic
import LatexSnippets.Store.FileTree
import LatexSnippets.Store.Location
import LatexSnippets.Store.Path
import LatexSnippets.Template.Basic
import LatexSnippets.Template.Field
import LatexSnippets.Template.Interpolated
import LatexSnippets.Template.Placeholder
import LatexSnippets.Terminal.Cell
import LatexSnippets.Terminal.Markup
import LatexSnippets.Terminal.Table
import LatexSnippets.Text.Basic
import LatexSnippets.Text.Line
import LatexSnippets.Text.Numeral
import LatexSnippets.Text.Quoted
import LatexSnippets.Text.Trim
import LatexSnippets.Trigger
import LatexSnippets.Unicode.Blank
import LatexSnippets.Unicode.Case
import LatexSnippets.Unicode.CaseTable
import LatexSnippets.Unicode.Identifier
import LatexSnippets.Unicode.Letter
import LatexSnippets.Unicode.Printable
import LatexSnippets.Unicode.Ranges
import LatexSnippets.Unicode.Width
import LatexSnippets.Proofs.Key.Sequence
import LatexSnippets.Proofs.Keymap.Spelling
import LatexSnippets.Proofs.Json.Limits
import LatexSnippets.Proofs.Store.Damage
import LatexSnippets.Proofs.Store.Sharing
import LatexSnippets.Proofs.Latex.Math
import LatexSnippets.Proofs.Editor.Dollars
import LatexSnippets.Proofs.Latex.Operand
import LatexSnippets.Proofs.Expansion
import LatexSnippets.Proofs.Editor.Fraction
import LatexSnippets.Proofs.Text.Line
import LatexSnippets.Proofs.Editor.LineDeletion
import LatexSnippets.Proofs.Editor.SelectedLines
import LatexSnippets.Proofs.Editor.LineMoves
import LatexSnippets.Proofs.Latex.Environment
import LatexSnippets.Proofs.Latex.Nesting
import LatexSnippets.Proofs.Latex.Closing
import LatexSnippets.Proofs.FieldQueue.Advance
import LatexSnippets.Proofs.Expr.Failures
import LatexSnippets.Proofs.Expr.Untyped
import LatexSnippets.Proofs.Expr.Length
import LatexSnippets.Proofs.Pattern.Ways
import LatexSnippets.Proofs.RegexTrigger
import LatexSnippets.Proofs.Editor.WordDeletion
import LatexSnippets.Proofs.Latex.Scan
import LatexSnippets.Proofs.FieldQueue.Apart
import LatexSnippets.Proofs.Json.Fitting
import LatexSnippets.Proofs.Source.Reloading
import LatexSnippets.Proofs.Library
import LatexSnippets.Proofs.Editor.Touching
