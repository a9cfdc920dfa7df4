import FunctionMetrics.CommandLine.Arguments
import FunctionMetrics.Options.Load
import FunctionMetrics.Report.Document
import FunctionMetrics.Report.Lines
import FunctionMetrics.Session

/-! # The program

Options come from the file and then from the command line. All output is made before any of it is written, so a run
that ends with a problem leaves nothing behind but a line on the error stream. -/

namespace FunctionMetrics.CommandLine

structure Finish where
  code : Nat
  output : String
  files : Files

/-! ## Options -/

def Given.toValue : Given Binary64 → Value
  | .blank => .list []
  | .value x => .number (.float x)

def overrides (c : Common) : Entries :=
  (c.low.toList.map fun x => (.text Bound.low.key, x.toValue)) ++
    (c.high.toList.map fun x => (.text Bound.high.key, x.toValue))

/-- The options of a command: those of the file, replaced by those of the command line. -/
def loadOptions (w : Workspace) (c : Common) : Outcome Options := do
  let options ← Options.load w.yaml w.files c.configPath
  if overrides c = [] then return options else options.merged (overrides c)

/-! ## Commands -/

def startSession (w : Workspace) (o : Options) (path : String) (cursor : Position) : Run Session :=
  Session.start o w (.file path none) cursor {}

def runInfo (w : Workspace) (a : InfoArguments) (o : Options) : Run Finish := do
  match a.line with
  | .blank => Run.ofOutcome (fail .lineNotNumber)
  | .value line =>
    let column := match a.column with
      | .blank => 0
      | .value c => c
    let s ← startSession w o a.common.path ⟨line - 1, column⟩
    let output ← match ← s.info with
      | some m => Popup.shown w.console o.border m
      | none => Popup.notice w.console Session.noUnitNotice
    Run.emit (.printed output)
    return ⟨0, output, w.files⟩

def writeOutput (fs : Files) (path text : String) : Outcome Files :=
  if ! isUsablePath path then fail .nullInPath
  else (fs.write (Path.ofText path) (Utf8.encode text)).mapError fun p => .fault (.file p (Path.ofText path).text)

def writeReport (format : OutputFormat) (path : String) (r : Report) : Outcome String :=
  match format with
  | .text => r.toText path
  | .json => r.toJson path

def listed (all : Bool) (o : Options) (r : Report) : Report := if all then r else r.problematic o.low

/-- Two if a listed function is above the high threshold, else zero. -/
def exitCode (r : Report) : Nat := if r.any fun m => m.severity = .error then 2 else 0

def runDiagnostics (w : Workspace) (a : DiagnosticsArguments) (o : Options) : Run Finish := do
  let s ← startSession w o a.common.path .origin
  let report := listed a.all o (← s.report)
  let text ← writeReport a.format a.common.path report
  match a.output with
  | none | some "" =>
    Run.emit (.printed text)
    return ⟨exitCode report, text, w.files⟩
  | some path =>
    let files ← writeOutput w.files path text
    Run.emit (.saved path text)
    return ⟨exitCode report, "", files⟩

def warnWithoutParsers (w : Workspace) : Run Unit :=
  if w.parsers.isNone then
    Run.log .warning .main "tree_sitter_languages is not installed; nothing will be analyzed"
  else pure ()

def runCommand (w : Workspace) (c : Command) : Run Finish := do
  warnWithoutParsers w
  let options ← loadOptions w c.common
  match c with
  | .info a => runInfo w a options
  | .diagnostics a => runDiagnostics w a options

/-! ## The end of a run -/

/-- How a run of the program ends: with a code, or in the middle of something. -/
inductive Ending
  | code (n : Nat)
  | fault (f : Fault)

structure Result where
  ending : Ending
  output : String
  errors : String
  files : Files

def writtenLog (verbose : Bool) (ls : List LogLine) : String :=
  let kept := ls.filter fun l => verbose || l.level = .warning || l.level = .error
  String.join (kept.map fun l => l.line ++ "\n")

def finish (w : Workspace) (verbose : Bool) (r : Run Finish) : Result :=
  let log := writtenLog verbose r.logLines
  match r.result with
  | .ok f => ⟨.code f.code, f.output, log, f.files⟩
  | .error (.problem p) => ⟨.code 1, "", log ++ programName ++ ": " ++ p.message ++ "\n", w.files⟩
  | .error (.fault f) => ⟨.fault f, "", log, w.files⟩

def leave (w : Workspace) : Leave → Result
  | .help t => ⟨.code 0, t.help, "", w.files⟩
  | .version => ⟨.code 0, programName ++ " " ++ version ++ "\n", "", w.files⟩
  | .complaint t text => ⟨.code 2, "", t.usage ++ t.title ++ ": error: " ++ text ++ "\n", w.files⟩

def run (w : Workspace) (args : List String) : Result :=
  match parse args with
  | .error l => leave w l
  | .ok c => finish w c.common.verbose (runCommand w c)

end FunctionMetrics.CommandLine
