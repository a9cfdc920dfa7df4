import FunctionMetrics.Analysis.Report

/-! # A report as text

One line for each unit: where its name starts, counted from one, how severe it is, its score and its name. -/

namespace FunctionMetrics.Report

def line (path : String) (m : Measurement) : Outcome String := do
  let row ← written (Number.digits? (m.nameRange.start.row + 1))
  let column ← written (Number.digits? (m.nameRange.start.column + 1))
  let message ← m.message
  return path ++ ":" ++ row ++ ":" ++ column ++ ": " ++ m.severity.label ++ " " ++ message ++ " (" ++ m.name ++ ")"

def toText (path : String) (r : Report) : Outcome String :=
  (r.mapM (line path)).map fun ls => String.join (ls.map (· ++ "\n"))

end FunctionMetrics.Report
