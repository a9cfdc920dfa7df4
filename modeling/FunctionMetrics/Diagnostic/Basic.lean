import FunctionMetrics.Run
import FunctionMetrics.Options.Basic

/-! # Diagnostics

What an editor shows beside the text: one entry for each function that is too complex, at its name. -/

namespace FunctionMetrics

structure Diagnostic where
  range : Range
  severity : Severity
  message : String
  source : String
deriving DecidableEq, Repr, Inhabited

namespace Diagnostic

/-- The name under which diagnostics are published. -/
def publisher : String := "Kokwame"

def of (m : Measurement) : Outcome Diagnostic :=
  m.message.map fun message => ⟨m.nameRange, m.severity, message, publisher⟩

def ofReport (r : Report) : Outcome (List Diagnostic) := r.mapM of

def ofTree (o : Options) (root : Option Node) : Run (List Diagnostic) := do
  let report ← Report.logged root o.thresholds .cyclomatic
  ofReport (report.problematic o.low)

end Diagnostic

end FunctionMetrics
