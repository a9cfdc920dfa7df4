import FunctionMetrics.Value.Basic

/-! # Severity of a score -/

namespace FunctionMetrics

inductive Severity
  | info
  | warning
  | error
deriving DecidableEq, Repr, Inhabited

namespace Severity

def all : List Severity := [.info, .warning, .error]

def name : Severity → String
  | .info => "info"
  | .warning => "warning"
  | .error => "error"

def label : Severity → String
  | .info => "INFO"
  | .warning => "WARNING"
  | .error => "ERROR"

/-- The number of a diagnostic's severity in the language server protocol. -/
def code : Severity → Nat
  | .error => 1
  | .warning => 2
  | .info => 3

def rank : Severity → Nat
  | .info => 0
  | .warning => 1
  | .error => 2

instance : LT Severity := ⟨fun a b => a.rank < b.rank⟩
instance : LE Severity := ⟨fun a b => a.rank ≤ b.rank⟩
instance (a b : Severity) : Decidable (a < b) := inferInstanceAs (Decidable (a.rank < b.rank))
instance (a b : Severity) : Decidable (a ≤ b) := inferInstanceAs (Decidable (a.rank ≤ b.rank))

def ofName? (s : String) : Option Severity := all.find? fun v => v.name = s

/-- From mild to severe; equal ones keep their order. -/
def sort (vs : List Severity) : List Severity := vs.mergeSort fun a b => a ≤ b

end Severity

/-- The scores from which a function is worth a warning and an error. -/
structure Thresholds where
  low : Number := 7
  high : Number := 12
deriving DecidableEq, Repr, Inhabited

/-- Above the high threshold an error, else above the low one a warning. -/
def severityOf (score : Number) (t : Thresholds) : Severity :=
  if t.high < score then .error else if t.low < score then .warning else .info

def isProblematic (score low : Number) : Bool := low < score

end FunctionMetrics
