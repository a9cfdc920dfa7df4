import FunctionMetrics.Analysis.Report

/-! # Runs

A run ends with a value or a failure, and on the way there something may be logged, shown, asked for or written. What
happened before a failure stays. -/

namespace FunctionMetrics

inductive Level
  | debug
  | info
  | warning
  | error
deriving DecidableEq, Repr

def Level.label : Level → String
  | .debug => "DEBUG"
  | .info => "INFO"
  | .warning => "WARNING"
  | .error => "ERROR"

/-- The part of the program that a line of the log comes from. -/
inductive Channel
  | main
  | analysis
  | parsing
  | diagnostics
  | session
deriving DecidableEq, Repr

def Channel.name : Channel → String
  | .main => "kokwame"
  | .analysis => "kokwame.analysis.report"
  | .parsing => "kokwame.parsing.treesitter"
  | .diagnostics => "kokwame.reporting.diagnostics"
  | .session => "kokwame.session"

structure LogLine where
  level : Level
  channel : Channel
  text : String
deriving DecidableEq, Repr

def LogLine.line (l : LogLine) : String := l.level.label ++ " " ++ l.channel.name ++ ": " ++ l.text

inductive Event
  | logged (line : LogLine)
  /-- The parser of a language was asked for. -/
  | asked (language : String)
  /-- The parser of a language was given a source. -/
  | parsed (language : String) (source : List UInt8)
  | shown (measurement : Measurement)
  | noticed (text : String)
  /-- A text was written to the terminal. -/
  | printed (text : String)
  /-- A file was written. -/
  | saved (path text : String)
deriving DecidableEq, Repr

structure Run (α : Type) where
  events : List Event
  result : Outcome α

namespace Run

variable {α β : Type}

def bind (x : Run α) (f : α → Run β) : Run β :=
  match x.result with
  | .ok a => ⟨x.events ++ (f a).events, (f a).result⟩
  | .error e => ⟨x.events, .error e⟩

instance : Monad Run where
  pure a := ⟨[], .ok a⟩
  bind := bind

def ofOutcome (x : Outcome α) : Run α := ⟨[], x⟩

instance : MonadLift Outcome Run := ⟨ofOutcome⟩

def emit (e : Event) : Run Unit := ⟨[e], .ok ()⟩

def log (level : Level) (channel : Channel) (text : String) : Run Unit := emit (.logged ⟨level, channel, text⟩)

/-- Goes on after a problem; a fault still ends the run. -/
def onProblem (x : Run α) (handle : Problem → Run α) : Run α :=
  match x.result with
  | .error (.problem p) => ⟨x.events ++ (handle p).events, (handle p).result⟩
  | _ => x

def logLines (x : Run α) : List LogLine :=
  x.events.filterMap fun
    | .logged l => some l
    | _ => none

end Run

/-- The report of a tree, which is logged once it is complete. -/
def Report.logged (root : Option Node) (t : Thresholds) (metric : Metric) : Run Report := do
  let report ← Report.ofTree root t metric
  if root.isSome then
    Run.log .debug .analysis ("Analyzed " ++ toString report.length ++ " function point(s)")
  return report

end FunctionMetrics
