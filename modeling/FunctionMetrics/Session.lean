import FunctionMetrics.Diagnostic.Store
import FunctionMetrics.Options.Given
import FunctionMetrics.Source.Tree

/-! # Sessions

A session belongs to one editor: its options, the tree and the cursor of the current text, and the diagnostics that
were published. Each request is answered, and changes the session only as it says. -/

namespace FunctionMetrics

structure Session where
  options : Options
  workspace : Workspace
  source : TreeSource := .tree none
  cursor : Position := .origin
  store : Store := {}

namespace Session

def optionsLiteral (o : Options) : String := (Value.map o.toEntries).literal

def announce (o : Options) : Run Unit :=
  Run.log .debug .session ("Kokwame set up with " ++ optionsLiteral o)

def start (options : Options) (workspace : Workspace) (source : TreeSource) (cursor : Position) (store : Store) :
    Run Session := do
  announce options
  return { options, workspace, source, cursor, store }

def infoCommand : String := "KokwameInfo"

def commands : List String := [infoCommand]

def noUnitNotice : String := "Kokwame: Cannot gather metrics; cursor is not inside a function point."

def currentTree (s : Session) : Run (Option Node) := s.source.current s.workspace

def report (s : Session) : Run Report := do
  Report.logged (← s.currentTree) s.options.thresholds .cyclomatic

/-- Shows the outermost function at the cursor, or says that there is none. -/
def info (s : Session) : Run (Option Measurement) := do
  match (← s.report).containing? s.cursor with
  | none =>
    Run.emit (.noticed noUnitNotice)
    return none
  | some m =>
    Run.emit (.shown m)
    return some m

def runCommand (s : Session) (name : String) : Run (Option Measurement) :=
  if commands.contains name then s.info else Run.ofOutcome (fail (.unknownCommand name))

/-- The diagnostics of the current tree, or none where they cannot be had, which is logged. -/
def freshDiagnostics? (s : Session) (buffer : Value) : Run (Option (List Diagnostic)) :=
  Run.onProblem
    (do return some (← Diagnostic.ofTree s.options (← s.currentTree)))
    fun p => do
      Run.log .error .diagnostics
        ("Diagnostics for " ++ buffer.plain ++ " not updated: " ++ p.message)
      return none

/-- Publishes the diagnostics of the current tree for a buffer; those of before stay if there are none to be had. -/
def refresh (s : Session) (buffer : Value) : Run (Bool × Session) := do
  match ← s.freshDiagnostics? buffer with
  | none => return (false, s)
  | some ds =>
    let store ← s.store.set buffer ds
    Run.log .debug .diagnostics
      ("Published " ++ toString ds.length ++ " diagnostic(s) for " ++ buffer.plain)
    return (true, { s with store })

/-- Refreshes a buffer if the session is a producer of diagnostics. -/
def publish (s : Session) (buffer : Value) : Run (Bool × Session) :=
  if s.options.isDiagnosticProducer then s.refresh buffer else pure (false, s)

/-! ## Requests -/

inductive Request
  | showTree (root : Option Node)
  | openFile (path : String)
  | moveCursor (p : Position)
  | info
  | command (name : String)
  | report
  | publish (buffer : Value)
  | refresh (buffer : Value)
  | diagnose
  | get (buffer : Value)
  | set (buffer : Value) (report : Report)
  | clear (buffer : Value)
  | options
  | namespaceName

inductive Answer
  | nothing
  | unit (m : Option Measurement)
  | report (r : Report)
  | done (b : Bool)
  | diagnostics (ds : List Diagnostic)
  | options (o : Options)
  | text (s : String)

/-- Answers a request; the second part is the session after it. -/
def handle (s : Session) : Request → Run (Answer × Session)
  | .showTree root => pure (.nothing, { s with source := .tree root })
  | .openFile path => pure (.nothing, { s with source := .file path none })
  | .moveCursor p => pure (.nothing, { s with cursor := p })
  | .info => do return (.unit (← s.info), s)
  | .command name => do return (.unit (← s.runCommand name), s)
  | .report => do return (.report (← s.report), s)
  | .publish buffer => do
    let (done, s) ← s.publish buffer
    return (.done done, s)
  | .refresh buffer => do
    let (done, s) ← s.refresh buffer
    return (.done done, s)
  | .diagnose => do return (.diagnostics (← Diagnostic.ofTree s.options (← s.currentTree)), s)
  | .get buffer => do return (.diagnostics (← s.store.get buffer), s)
  | .set buffer report => do
    let store ← s.store.set buffer (← Diagnostic.ofReport report)
    return (.nothing, { s with store })
  | .clear buffer => do return (.nothing, { s with store := ← s.store.clear buffer })
  | .options => pure (.options s.options, s)
  | .namespaceName => pure (.text s.store.namespaceName, s)

/-- The session after a request: one that fails changes nothing. -/
def after (s : Session) (r : Request) : Session :=
  match (s.handle r).result with
  | .ok (_, s) => s
  | .error _ => s

end Session

end FunctionMetrics
