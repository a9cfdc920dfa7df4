import FunctionMetrics.Analysis.Report

/-! # Lines of the popup

The popup of a unit shows its name, centered over its metrics, a blank line and the metrics. -/

namespace FunctionMetrics.Popup

def spaces (n : Nat) : String := String.ofList (List.replicate n ' ')

/-- Puts `text` in the middle of `width` characters; nothing is added behind it. -/
def center (text : String) (width : Int) : String :=
  if width ≤ text.length then text else spaces ((width.toNat - text.length) / 2) ++ text

def metricLine (message : String) : String := " 1. " ++ message ++ " "

def lines (m : Measurement) : Outcome (List String) :=
  m.message.map fun message =>
    let line := metricLine message
    [center m.name (max m.name.length line.length : Nat), "", line]

end FunctionMetrics.Popup
