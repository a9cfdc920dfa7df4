import FunctionMetrics.Text.Blank
import FunctionMetrics.Text.Digit

/-! # Options of the command line

An option may be shortened as long as no other one starts the same, and its value may be attached with an equals
sign. Everything behind a lone double dash is no option. -/

namespace FunctionMetrics.CommandLine

inductive Switch
  | help
  | version
  | config
  | low
  | high
  | verbose
  | line
  | column
  | all
  | format
  | output
deriving DecidableEq, Repr

namespace Switch

def names : Switch → List String
  | .help => ["-h", "--help"]
  | .version => ["--version"]
  | .config => ["--config"]
  | .low => ["--low"]
  | .high => ["--high"]
  | .verbose => ["-v", "--verbose"]
  | .line => ["--line"]
  | .column => ["--column"]
  | .all => ["--all"]
  | .format => ["--format"]
  | .output => ["--output"]

def takesValue : Switch → Bool
  | .help | .version | .verbose | .all => false
  | _ => true

def label (s : Switch) : String := "/".intercalate s.names

end Switch

/-- What a command accepts: its options, and whether its argument takes all that follows with it. -/
structure Form where
  switches : List Switch
  takesRest : Bool
deriving DecidableEq, Repr

namespace Form

def main : Form := ⟨[.help, .version], true⟩
def info : Form := ⟨[.help, .config, .low, .high, .verbose, .line, .column], false⟩
def diagnostics : Form := ⟨[.help, .config, .low, .high, .verbose, .all, .format, .output], false⟩

def spellings (f : Form) : List (String × Switch) := f.switches.flatMap fun s => s.names.map (·, s)

end Form

inductive Mark
  /-- The lone double dash. -/
  | separator
  | plain
  | option (s : Switch) (name : String) (attached : Option String)
  | unknown
deriving DecidableEq, Repr

def splitEquals (arg : String) : String × Option String :=
  let (before, rest) := arg.toList.span (· ≠ '=')
  match rest with
  | [] => (arg, none)
  | _ :: behind => (String.ofList before, some (String.ofList behind))

/-- A minus sign and digits, perhaps with a point before the last of them; a line break may end it. -/
def looksNegative (arg : String) : Bool :=
  let isDigit (c : Char) : Bool := (Text.digitValue? c).isSome
  match Text.dropFinalBreak arg.toList with
  | '-' :: cs =>
    let (whole, rest) := cs.span isDigit
    match rest with
    | [] => whole ≠ []
    | '.' :: fraction => fraction ≠ [] ∧ fraction.all isDigit
    | _ => false
  | _ => false

/-- The options that an argument with a dash in front may mean, with what is attached to it. -/
def candidates (f : Form) (arg : String) : List (String × Switch × Option String) :=
  if arg.startsWith "--" then
    let (start, attached) := splitEquals arg
    (f.spellings.filter fun (name, _) => name.startsWith start).map fun (name, s) => (name, s, attached)
  else
    let letter := String.ofList (arg.toList.take 2)
    let rest := String.ofList (arg.toList.drop 2)
    (f.spellings.filter fun (name, _) => name = letter).map fun (name, s) => (name, s, some rest)

structure Ambiguity where
  arg : String
  names : List String
deriving DecidableEq, Repr

/-- How an argument before the lone double dash is understood. -/
def markOf (f : Form) (arg : String) : Except Ambiguity Mark :=
  if ¬ arg.startsWith "-" then .ok .plain
  else match f.spellings.lookup arg with
    | some s => .ok (.option s arg none)
    | none =>
      if arg = "-" then .ok .plain
      else
        let (start, attached) := splitEquals arg
        match attached, f.spellings.lookup start with
        | some _, some s => .ok (.option s start attached)
        | _, _ =>
          match candidates f arg with
          | [(name, s, attached)] => .ok (.option s name attached)
          | [] => .ok (if looksNegative arg ∨ arg.contains ' ' then .plain else .unknown)
          | several => .error ⟨arg, several.map (·.1)⟩

def markAll (f : Form) : List String → Except Ambiguity (List (String × Mark))
  | [] => .ok []
  | arg :: rest =>
    if arg = "--" then .ok ((arg, .separator) :: rest.map (·, .plain))
    else do
      let mark ← markOf f arg
      return (arg, mark) :: (← markAll f rest)

end FunctionMetrics.CommandLine
