import FunctionMetrics.Analysis.Metric
import FunctionMetrics.Analysis.Severity

/-! # Reports

One measurement for each unit of a tree, in pre-order. A unit whose name cannot be found spoils the whole report. -/

namespace FunctionMetrics

def Node.name (unit : Node) : Outcome Node :=
  match unit.findName with
  | .found name => .ok name
  | .lost within => refuseName within.kind within.range

structure Measurement where
  name : String
  nameRange : Range
  unitRange : Range
  score : Number
  severity : Severity
  label : String := Metric.cyclomatic.label
deriving DecidableEq, Repr, Inhabited

namespace Measurement

def message (m : Measurement) : Outcome String := (scoreText m.score).map fun s => m.label ++ ": " ++ s

def of (unit : Node) (t : Thresholds) (metric : Metric) : Outcome Measurement := do
  let name ← unit.name
  let score := metric.measure unit
  return {
    name := Utf8.decodeLossy name.text
    nameRange := name.range
    unitRange := unit.range
    score
    severity := severityOf score t
    label := metric.label }

end Measurement

abbrev Report := List Measurement

namespace Report

/-- Measures every unit of a tree; without a tree there is nothing to report. -/
def ofTree (root : Option Node) (t : Thresholds) (metric : Metric) : Outcome Report :=
  match root with
  | none => .ok []
  | some root => root.units.mapM fun unit => Measurement.of unit t metric

/-- The measurements above the low threshold. -/
def problematic (r : Report) (low : Number) : Report := r.filter fun m => isProblematic m.score low

/-- The first unit that spans the row of a point. -/
def containing? (r : Report) (p : Position) : Option Measurement := r.find? fun m => m.unitRange.spans p

end Report

end FunctionMetrics
