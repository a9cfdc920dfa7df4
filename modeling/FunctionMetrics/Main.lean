import FunctionMetrics.CommandLine.Program
import FunctionMetrics.Installed

/-! # The command line program

Takes a snapshot of the files that a command names, runs the command on it, and writes what it leaves. No parsers
are built in. -/

namespace FunctionMetrics

open CommandLine

/-- Adds what is found at `names`, if anything is; says whether it is a directory. -/
def lookAt (fs : Files) (names : List String) : IO (Bool × Files) := do
  try
    let bytes ← IO.FS.readBinFile ("/" ++ "/".intercalate names)
    return (false, fs.put names bytes.toList)
  catch
    | .inappropriateType .. => return (true, { fs with directories := names :: fs.directories })
    | .permissionDenied _ code reason =>
      let refusals := ((Files.Act.read, names), FileProblem.other code.toNat reason) :: fs.refusals
      return (false, { fs.put names [] with refusals })
    | _ => return (false, fs)

def lookAlong (fs : Files) (names : List String) : List String → IO Files
  | [] => return fs
  | name :: rest => do
    let (isDirectory, fs) ← lookAt fs (Files.child names name)
    if isDirectory then lookAlong fs (Files.child names name) rest else return fs

def snapshot (paths : List String) : IO Files := do
  let here := (Path.ofText (← IO.currentDir).toString).parts
  let mut fs : Files := { here }
  for text in paths do
    let p := Path.ofText text
    fs ← lookAlong fs (fs.startOf p) p.parts
  return fs

/-- The terminal that is written to, as far as the environment tells. -/
def currentTerminal : IO Terminal := do
  let width := ((← IO.getEnv "COLUMNS").bind String.toNat?).getD 80
  let color := (← (← IO.getStdout).isTty) && (← IO.getEnv "NO_COLOR").isNone
  return { width, color }

def writeBack (before after : Files) (path : String) : IO Unit := do
  let old := (before.read (Path.ofText path)).toOption
  match (after.read (Path.ofText path)).toOption with
  | some bytes => if old ≠ some bytes then IO.FS.writeBinFile path ⟨bytes.toArray⟩
  | none => return

end FunctionMetrics

open FunctionMetrics CommandLine in
def main (args : List String) : IO UInt32 := do
  let paths := match parse args with
    | .ok c => c.paths
    | .error _ => []
  let files ← snapshot paths
  let result := run (installed (← currentTerminal) files none) args
  (← IO.getStdout).putStr result.output
  (← IO.getStderr).putStr result.errors
  for path in paths do
    writeBack files result.files path
  match result.ending with
  | .code n => return n.toUInt32
  | .fault f => do
    IO.eprintln (programName ++ ": " ++ f.message)
    return 1
