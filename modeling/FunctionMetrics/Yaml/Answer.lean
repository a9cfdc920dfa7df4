import FunctionMetrics.Failure

/-! # What a reader of YAML answers -/

namespace FunctionMetrics.Yaml

/-- Why a text has no value. -/
inductive Refusal
  /-- It is no YAML, in the words of the reader. -/
  | malformed (reason : String)
  /-- The reader stops with an error that is not its own. -/
  | stopped (error : LibraryError)
deriving DecidableEq, Repr

abbrev Reader := String → Except Refusal Value

end FunctionMetrics.Yaml
