import FunctionMetrics.CommandLine.Program
import FunctionMetrics.Installed
import FunctionMetrics.Proofs.Source.Tree
import Mathlib

/-!
# A run of the diagnostics command

The command ends with what its tree, its report, its text and its output end with, in this order. The program ends
with the code that the command gives, with one after a problem, and in the middle of a fault.
-/

namespace FunctionMetrics.CommandLine

variable {w : Workspace} {args : List String} {c : Command} {a : DiagnosticsArguments} {o : Options}

def deliver (fs : Files) (output : Option String) (text : String) : Outcome (String × Files) :=
  match output with
  | none | some "" => .ok (text, fs)
  | some path => (writeOutput fs path text).map fun files => ("", files)

theorem deliver_of_blank {fs : Files} {output : Option String} (h : output.getD "" = "") (text : String) :
    deliver fs output text = .ok (text, fs) := by
  cases output with
  | none => rfl
  | some path =>
    obtain rfl : path = "" := h
    rfl

theorem deliver_path {fs : Files} {path : String} (h : path ≠ "") (text : String) :
    deliver fs (some path) text = (writeOutput fs path text).map fun files => ("", files) := by
  unfold deliver
  split
  · rename_i h'; cases h'
  · rename_i h'; exact absurd (Option.some.inj h') h
  · rename_i h'; rw [Option.some.inj h']

def sourceTree (w : Workspace) (path : String) : Outcome (Option Node) :=
  ((TreeSource.file path none).current w).result

theorem result_startSession (w : Workspace) (o : Options) (path : String) (cursor : Position) :
    (startSession w o path cursor).result = .ok ⟨o, w, .file path none, cursor, {}⟩ := rfl

theorem result_report (s : Session) :
    s.report.result = s.currentTree.result >>= fun root => Report.ofTree root s.options.thresholds .cyclomatic := by
  unfold Session.report
  rw [Run.result_bind]
  simp only [Report.result_logged]

theorem result_runDiagnostics (w : Workspace) (a : DiagnosticsArguments) (o : Options) :
    (runDiagnostics w a o).result =
      sourceTree w a.common.path >>= fun root =>
      Report.ofTree root o.thresholds .cyclomatic >>= fun r =>
      writeReport a.format a.common.path (listed a.all o r) >>= fun text =>
      (deliver w.files a.output text).map fun (out, files) => ⟨exitCode (listed a.all o r), out, files⟩ := by
  unfold runDiagnostics
  rw [Run.result_bind, result_startSession, Outcome.ok_bind, Run.result_bind, result_report]
  change (sourceTree w a.common.path >>= fun root => Report.ofTree root o.thresholds .cyclomatic) >>= _ = _
  rw [bind_assoc]
  congr 1; funext root
  congr 1; funext r
  rw [Run.result_bind, Run.result_liftM]
  congr 1; funext text
  generalize a.output = output
  split
  case h_1 => rfl
  case h_2 => rfl
  case h_3 path hpath =>
    rw [deliver_path hpath, Run.result_bind, Run.result_liftM]
    cases writeOutput w.files path text <;> rfl

/-! ## The end of the program -/

theorem result_warnWithoutParsers (w : Workspace) : (warnWithoutParsers w).result = .ok () := by
  unfold warnWithoutParsers
  split <;> rfl

theorem result_runCommand (h : loadOptions w a.common = .ok o) :
    (runCommand w (.diagnostics a)).result = (runDiagnostics w a o).result := by
  unfold runCommand
  rw [Run.result_bind, result_warnWithoutParsers, Outcome.ok_bind, Run.result_bind, Run.result_liftM, Command.common, h,
    Outcome.ok_bind]

def endingOf : Outcome Finish → Ending
  | .ok f => .code f.code
  | .error (.problem _) => .code 1
  | .error (.fault f) => .fault f

def outputOf : Outcome Finish → String
  | .ok f => f.output
  | .error _ => ""

theorem run_of_command (hparse : parse args = .ok c) :
    (run w args).ending = endingOf (runCommand w c).result ∧ (run w args).output = outputOf (runCommand w c).result := by
  unfold run
  rw [hparse]
  dsimp only [finish]
  cases (runCommand w c).result with
  | ok f => exact ⟨rfl, rfl⟩
  | error e => cases e <;> exact ⟨rfl, rfl⟩

theorem run_of_parse (hparse : parse args = .ok (.diagnostics a)) (ho : loadOptions w a.common = .ok o) :
    (run w args).ending = endingOf (runDiagnostics w a o).result ∧
      (run w args).output = outputOf (runDiagnostics w a o).result := by
  rw [← result_runCommand ho]
  exact run_of_command hparse

/-! ## One source -/

theorem readSource_first (bytes : List UInt8) (rest : List (List String × List UInt8)) :
    readSource { contents := (["a.py"], bytes) :: rest } "a.py" = .ok bytes := by
  have hpath : Path.ofText "a.py" = ⟨"", ["a.py"]⟩ := by cbv
  have husable : isUsablePath "a.py" = true := by cbv
  have htext : Path.text ⟨"", ["a.py"]⟩ = "a.py" := rfl
  have hsize : "a.py".utf8ByteSize = 4 := rfl
  have hresolve : Files.resolve { contents := (["a.py"], bytes) :: rest } ⟨"", ["a.py"]⟩ = .ok ["a.py"] := by
    simp [Files.resolve, htext, hsize, Files.follow, Files.startOf, Files.isDirectory, Files.exists?, Files.child,
      Files.bytesAt?, Files.pathLimit, Files.longestName, Files.enter, Files.allow, Files.refusal?, bind, Except.bind,
      pure, Except.pure]
  unfold readSource Files.read
  rw [husable, hpath, hresolve]
  rfl

theorem sourceTree_first {w : Workspace} {bytes : List UInt8} {rest : List (List String × List UInt8)} {root : Node}
    (hfiles : w.files = { contents := (["a.py"], bytes) :: rest })
    (hparsers : w.parsers = some fun _ => .ok fun _ => root) : sourceTree w "a.py" = .ok (some root) := by
  have hlanguage : Language.resolve? none "a.py" = some "python" := by decide +kernel
  rw [sourceTree, result_current_file, hlanguage]
  dsimp only
  rw [hfiles, hparsers, readSource_first]
  rfl

/-- One source file, whose parser answers a tree. -/
def workspaceOf (root : Node) : Workspace :=
  installed {} { contents := [(["a.py"], [])] } (some fun _ => .ok fun _ => root)

theorem sourceTree_workspaceOf (root : Node) : sourceTree (workspaceOf root) "a.py" = .ok (some root) :=
  sourceTree_first rfl rfl

end FunctionMetrics.CommandLine
