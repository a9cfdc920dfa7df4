import FunctionMetrics.Main
import FunctionMetrics.Proofs.Outcome
import FunctionMetrics.Proofs.Number.Order
import FunctionMetrics.Proofs.Number.Exact
import FunctionMetrics.Proofs.Number.Value
import FunctionMetrics.Proofs.Number.Monotone
import FunctionMetrics.Proofs.Diagnostic.Store
import FunctionMetrics.Proofs.Analysis.Report
import FunctionMetrics.Proofs.Options.Entries
import FunctionMetrics.Proofs.Options.Merge
import FunctionMetrics.Proofs.Session.History
import FunctionMetrics.Proofs.Syntax.Hole
import FunctionMetrics.Proofs.Syntax.Search
import FunctionMetrics.Proofs.Syntax.Places
import FunctionMetrics.Proofs.Analysis.Locality
import FunctionMetrics.Proofs.Analysis.Nesting
import FunctionMetrics.Proofs.Analysis.Pointed
import FunctionMetrics.Proofs.CommandLine.Diagnostics
import FunctionMetrics.Proofs.CommandLine.Printed
import FunctionMetrics.Proofs.CommandLine.Surfaces
import FunctionMetrics.Proofs.CommandLine.ExitCode
import FunctionMetrics.Proofs.CommandLine.Thresholds
import FunctionMetrics.Proofs.Options.Chain
import FunctionMetrics.Proofs.Syntax.Enclosing
import FunctionMetrics.Proofs.Events
import FunctionMetrics.Proofs.Text.Ascii
import FunctionMetrics.Proofs.Terminal.Cells
import FunctionMetrics.Proofs.Popup.Shown
import FunctionMetrics.Proofs.CommandLine.Answer
import FunctionMetrics.Proofs.CommandLine.Effects
import FunctionMetrics.Proofs.CommandLine.ListedLines
import FunctionMetrics.Proofs.Text.Utf8
import FunctionMetrics.Proofs.Number.Nearest
import FunctionMetrics.Proofs.Number.Numeral
import FunctionMetrics.Proofs.Number.Typed
import FunctionMetrics.Proofs.Number.Shortest
import FunctionMetrics.Proofs.Json.Grammar
import FunctionMetrics.Proofs.Json.Scalars
import FunctionMetrics.Proofs.Json.Fuel
import FunctionMetrics.Proofs.Json.Reading
import FunctionMetrics.Proofs.Json.Numbers
import FunctionMetrics.Proofs.Json.Writing
import FunctionMetrics.Proofs.Report.Document
import FunctionMetrics.Proofs.Session.Presenting
import FunctionMetrics.Proofs.CommandLine.ConfigFile
import FunctionMetrics.Proofs.Syntax.Walk
import FunctionMetrics.Proofs.Syntax.Around
import FunctionMetrics.Proofs.Analysis.Naming
import FunctionMetrics.Proofs.Analysis.Counts
import FunctionMetrics.Proofs.Number.Significant
import FunctionMetrics.Proofs.Analysis.PlainScores
import FunctionMetrics.Proofs.Analysis.Containing
import FunctionMetrics.Proofs.Report.Lines
import FunctionMetrics.Proofs.Number.Halves
import FunctionMetrics.Proofs.Analysis.HalfScores
import FunctionMetrics.Proofs.Analysis.Softening
import FunctionMetrics.Proofs.Source.File
import FunctionMetrics.Proofs.Terminal.Fitting
import FunctionMetrics.Proofs.Popup.Layout
import FunctionMetrics.Proofs.Terminal.Layout
import FunctionMetrics.Proofs.Popup.Borders
