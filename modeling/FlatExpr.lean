import FlatExpr.Blueprint
import FlatExpr.Change
import FlatExpr.CommandLine
import FlatExpr.Construction
import FlatExpr.Cursor
import FlatExpr.Dialogue
import FlatExpr.Dialogue.Command
import FlatExpr.Dialogue.Reply
import FlatExpr.Double
import FlatExpr.Double.Shortest
import FlatExpr.Expr
import FlatExpr.Fault
import FlatExpr.Grammar
import FlatExpr.Json
import FlatExpr.Main
import FlatExpr.Options
import FlatExpr.Options.Draft
import FlatExpr.Options.Flag
import FlatExpr.Options.Mark
import FlatExpr.Parser
import FlatExpr.Parser.Character
import FlatExpr.Printed
import FlatExpr.Proofs.Grammar
import FlatExpr.Proofs.Grammar.Failure
import FlatExpr.Proofs.Grammar.Guard
import FlatExpr.Proofs.Grammar.Reference
import FlatExpr.Proofs.Grammar.RoundTrip
import FlatExpr.Proofs.Nesting
import FlatExpr.Proofs.Reader
import FlatExpr.Proofs.Reading
import FlatExpr.Proofs.Text.Numeral
import FlatExpr.Proofs.Tree
import FlatExpr.Reader
import FlatExpr.Reader.Number
import FlatExpr.Record
import FlatExpr.Report
import FlatExpr.Result
import FlatExpr.Rule
import FlatExpr.Run
import FlatExpr.Stack
import FlatExpr.Stack.Calls
import FlatExpr.Text.Blank
import FlatExpr.Text.CharClass
import FlatExpr.Text.Decimal
import FlatExpr.Text.Digit
import FlatExpr.Text.Hex
import FlatExpr.Text.Integer
import FlatExpr.Text.Letter
import FlatExpr.Text.Printable
import FlatExpr.Text.Quoted
import FlatExpr.Text.Ranges
import FlatExpr.Text.Span
import FlatExpr.Value
import FlatExpr.Value.Distinct
import FlatExpr.Value.Same
import FlatExpr.Value.View
import FlatExpr.Workbench
import FlatExpr.Proofs.Grammar.Shape
import FlatExpr.Proofs.Spelling
import FlatExpr.Proofs.Grammar.Reads
import FlatExpr.Proofs.Grammar.NormalForm
import FlatExpr.Proofs.Dialogue
import FlatExpr.Proofs.Printed
import FlatExpr.Proofs.Json.Reader
import FlatExpr.Proofs.Json.Layout
import FlatExpr.Proofs.Json.Same
import FlatExpr.Proofs.Report
import FlatExpr.Proofs.Report.Json
import FlatExpr.Proofs.Cursor
import FlatExpr.Proofs.Grammar.Notes
import FlatExpr.Proofs.Report.Log
import FlatExpr.Proofs.Dialogue.Agreement
import FlatExpr.Proofs.Grammar.Alternatives
import FlatExpr.Proofs.Dialogue.Mode
import FlatExpr.Proofs.Options
import FlatExpr.Proofs.CommandLine
import FlatExpr.Proofs.CommandLine.Arrangement
import FlatExpr.Proofs.Grammar.Locality
import FlatExpr.Proofs.Grammar.Number
import FlatExpr.Proofs.Repetition
import FlatExpr.Proofs.Watch
import FlatExpr.Proofs.Origin
import FlatExpr.Proofs.Alike
import FlatExpr.Proofs.Algebra
import FlatExpr.Proofs.Call
import FlatExpr.Proofs.Order
import FlatExpr.Proofs.Construction
import FlatExpr.Proofs.Distinct
import FlatExpr.Proofs.Progress
import FlatExpr.Proofs.Grammar.Progress
