import FunctionMetrics.Analysis.Weight
import FunctionMetrics.Failure
import FunctionMetrics.Syntax.Unit

/-! # Measures of a function -/

namespace FunctionMetrics

/-- The weights of all nodes below a unit, summed, and one for the path that every function has. -/
def complexity (unit : Node) : Binary64 :=
  .one + unit.descendants.foldl (fun sum n => sum + weightOf n.kind) .zero

structure Metric where
  name : String := "metric"
  label : String := "Metric"
  measure : Node → Number := fun _ => .float .zero

namespace Metric

def base : Metric := {}

def cyclomatic : Metric where
  name := "cyclomatic_complexity"
  label := "Complexity"
  measure unit := .float (complexity unit)

def constant (label : String) (value : Number) : Metric := { label, measure := fun _ => value }

end Metric

/-- A whole score without a point, any other with at most ten digits. -/
def scoreText : Number → Outcome String
  | .int n => written (Number.digits? n)
  | .float .nan => fail .scoreNaN
  | .float (.infinity _) => fail .scoreInfinite
  | .float (.finite negative m) =>
    if m.units % Magnitude.unitsInOne = 0 then
      let whole : Nat := m.units / Magnitude.unitsInOne
      .ok (toString (if negative then -(whole : Int) else whole))
    else .ok (Binary64.finite negative m).briefText

end FunctionMetrics
