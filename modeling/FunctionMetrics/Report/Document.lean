import FunctionMetrics.Analysis.Report
import FunctionMetrics.Json.Writer

/-! # A report as a JSON document -/

namespace FunctionMetrics

def Range.toValue (r : Range) : Value := .list (r.toList.map Value.int)

def Measurement.toValue (m : Measurement) : Outcome Value :=
  m.message.map fun message =>
    .map [(.text "name", .text m.name), (.text "name_range", m.nameRange.toValue),
      (.text "unit_range", m.unitRange.toValue), (.text "score", .number m.score),
      (.text "severity", .text m.severity.name), (.text "message", .text message)]

namespace Report

def toValue (path : String) (r : Report) : Outcome Value :=
  (r.mapM Measurement.toValue).map fun units =>
    .map [(.text "path", .text path), (.text "units", .list units)]

def toJson (path : String) (r : Report) : Outcome String := do written (Json.write? (← r.toValue path))

end Report

end FunctionMetrics
