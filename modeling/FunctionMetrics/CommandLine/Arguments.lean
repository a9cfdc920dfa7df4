import FunctionMetrics.CommandLine.Found
import FunctionMetrics.CommandLine.Help
import FunctionMetrics.Number.Typed
import FunctionMetrics.Options.Basic

/-! # Arguments

A command line is a command with its arguments, or an end at once: help, the version, or a complaint. Of several
complaints the first one found is made. -/

namespace FunctionMetrics.CommandLine

inductive OutputFormat
  | text
  | json
deriving DecidableEq, Repr

def OutputFormat.name : OutputFormat → String
  | .text => "text"
  | .json => "json"

def OutputFormat.all : List OutputFormat := [.text, .json]

/-- A value that was asked for; `blank` where a lone double dash stands in its place. -/
inductive Given (α : Type)
  | blank
  | value (a : α)
deriving DecidableEq, Repr

structure Common where
  path : String
  configPath : Option String := none
  low : Option (Given Binary64) := none
  high : Option (Given Binary64) := none
  verbose : Bool := false
deriving DecidableEq, Repr

structure InfoArguments where
  common : Common
  /-- The line, counted from one. -/
  line : Given Int
  column : Given Int
deriving DecidableEq, Repr

structure DiagnosticsArguments where
  common : Common
  all : Bool := false
  format : OutputFormat := .text
  output : Option String := none
deriving DecidableEq, Repr

inductive Command
  | info (a : InfoArguments)
  | diagnostics (a : DiagnosticsArguments)
deriving DecidableEq, Repr

def Command.common : Command → Common
  | .info a => a.common
  | .diagnostics a => a.common

def Command.paths : Command → List String
  | .info a => a.common.path :: a.common.configPath.toList
  | .diagnostics a => a.common.path :: (a.common.configPath.toList ++ a.output.toList)

inductive Leave
  | help (t : Topic)
  | version
  | complaint (t : Topic) (text : String)
deriving DecidableEq, Repr

structure Gathered where
  path : Option String := none
  configPath : Option String := none
  low : Option (Given Binary64) := none
  high : Option (Given Binary64) := none
  verbose : Bool := false
  line : Option (Given Int) := none
  column : Given Int := .value 0
  all : Bool := false
  format : OutputFormat := .text
  output : Option String := none
  extras : List String := []

def complainOf (t : Topic) (s : Switch) (reason : String) : Leave :=
  .complaint t ("argument " ++ s.label ++ ": " ++ reason)

def readFloat (t : Topic) (s : Switch) : Option String → Except Leave (Given Binary64)
  | none => .ok .blank
  | some text =>
    match Typed.float? text with
    | some x => .ok (.value x)
    | none => .error (complainOf t s ("invalid float value: " ++ Text.quote text))

def readWhole (t : Topic) (s : Switch) : Option String → Except Leave (Given Int)
  | none => .ok .blank
  | some text =>
    match Typed.whole text with
    | .ok n => .ok (.value n)
    | .error _ => .error (complainOf t s ("invalid int value: " ++ Text.quote text))

def wrongChoice (given : String) (choices : List String) : String :=
  "invalid choice: " ++ Text.quote given ++ " (choose from " ++ ", ".intercalate (choices.map Text.quote) ++ ")"

def readFormat (t : Topic) : Option String → Except Leave OutputFormat
  | none => .ok .text
  | some text =>
    match OutputFormat.all.find? fun f => f.name = text with
    | some f => .ok f
    | none => .error (complainOf t .format (wrongChoice text (OutputFormat.all.map OutputFormat.name)))

def gather (t : Topic) (g : Gathered) : Found → Except Leave Gathered
  | .refused s reason => .error (complainOf t s reason)
  | .extra arg => .ok { g with extras := g.extras ++ [arg] }
  | .argument args => .ok { g with path := args.head? }
  | .option s value =>
    match s with
    | .help => .error (.help t)
    | .version => .error .version
    | .verbose => .ok { g with verbose := true }
    | .all => .ok { g with all := true }
    | .config => .ok { g with configPath := value }
    | .output => .ok { g with output := value }
    | .low => do return { g with low := some (← readFloat t s value) }
    | .high => do return { g with high := some (← readFloat t s value) }
    | .line => do return { g with line := some (← readWhole t s value) }
    | .column => do return { g with column := ← readWhole t s value }
    | .format => do return { g with format := ← readFormat t value }

def ambiguous (t : Topic) (a : Ambiguity) : Leave :=
  .complaint t ("ambiguous option: " ++ a.arg ++ " could match " ++ ", ".intercalate a.names)

def missing (t : Topic) (names : List String) : Leave :=
  .complaint t ("the following arguments are required: " ++ ", ".intercalate names)

def gatherAll (t : Topic) (f : Form) (args : List String) : Except Leave Gathered := do
  let found ← (CommandLine.read f args).mapError (ambiguous t)
  found.foldlM (gather t) {}

def commonOf (g : Gathered) (path : String) : Common :=
  { path, configPath := g.configPath, low := g.low, high := g.high, verbose := g.verbose }

def readInfo (args : List String) : Except Leave (Command × List String) := do
  let g ← gatherAll .info .info args
  match g.path, g.line with
  | some path, some line => .ok (.info ⟨commonOf g path, line, g.column⟩, g.extras)
  | path, line =>
    .error (missing .info ((if path = none then ["path"] else []) ++ (if line = none then [Switch.line.label] else [])))

def readDiagnostics (args : List String) : Except Leave (Command × List String) := do
  let g ← gatherAll .diagnostics .diagnostics args
  match g.path with
  | some path => .ok (.diagnostics ⟨commonOf g path, g.all, g.format, g.output⟩, g.extras)
  | none => .error (missing .diagnostics ["path"])

def commands : List (String × (List String → Except Leave (Command × List String))) :=
  [("info", readInfo), ("diagnostics", readDiagnostics)]

def commandLabel : String := "command"

def readCommand : List String → Except Leave (Command × List String)
  | [] => .error (missing .program [commandLabel])
  | word :: args =>
    match commands.lookup word with
    | some read => read args
    | none =>
      .error (.complaint .program
        ("argument " ++ commandLabel ++ ": " ++ wrongChoice word (commands.map (·.1))))

/-- Acts on what was found before the command and on the command itself. -/
def dispatch (extras : List String) (command : Option (Command × List String)) :
    List Found → Except Leave Command
  | [] =>
    match command with
    | none => .error (missing .program [commandLabel])
    | some (c, more) =>
      match extras ++ more with
      | [] => .ok c
      | left => .error (.complaint .program ("unrecognized arguments: " ++ " ".intercalate left))
  | .refused s reason :: _ => .error (complainOf .program s reason)
  | .extra arg :: rest => dispatch (extras ++ [arg]) command rest
  | .argument args :: rest => do dispatch extras (some (← readCommand args)) rest
  | .option .version _ :: _ => .error .version
  | .option _ _ :: _ => .error (.help .program)

def parse (args : List String) : Except Leave Command := do
  let found ← (CommandLine.read .main args).mapError (ambiguous .program)
  dispatch [] none found

end FunctionMetrics.CommandLine
