import FunctionMetrics.Json.Reader
import FunctionMetrics.Syntax.Location
import FunctionMetrics.Text.Utf8
import FunctionMetrics.Value.Literal

/-! # What can go wrong

A problem is told to the user in one line. A fault is a misuse or an input that nothing is prepared for; it ends
the run. Both are kept as causes, and the wording is in one place. -/

namespace FunctionMetrics

inductive Bound
  | low
  | high
deriving DecidableEq, Repr

def Bound.key : Bound → String
  | .low => "threshold_low"
  | .high => "threshold_high"

/-- Why a configuration is refused; what was given is kept as it is shown. -/
inductive ConfigProblem
  | producerNotBool (given : String)
  | unknownBorder (choices : List String) (given : String)
  | notANumber (bound : Bound) (given : String)
  | notFinite (bound : Bound) (given : Number)
  | notLower (low high : Number)
  | unknownOption (key : Value) (given : String)
  | missing (path : String)
  /-- A file that is no document of its format, in the words of the reader of that format. -/
  | malformed (path reason : String)
  | notAMapping (path : String)
deriving Repr

def ConfigProblem.message : ConfigProblem → String
  | .producerNotBool given => "Option [is_diagnostic_producer] must be a boolean, got " ++ given
  | .unknownBorder choices given =>
    "Option [border] must be one of " ++ ", ".intercalate choices ++ ", got " ++ given
  | .notANumber b given => "Option [" ++ b.key ++ "] must be a number, got " ++ given
  | .notFinite b n => "Option [" ++ b.key ++ "] must be a finite number, got " ++ n.text
  | .notLower low high =>
    "Option [threshold_low] (" ++ low.text ++ ") must be lower than [threshold_high] (" ++ high.text ++ ")"
  | .unknownOption _ given => "Unknown option [" ++ given ++ "]"
  | .missing path => "Config file not found: " ++ path
  | .malformed path reason => "Cannot parse config file " ++ path ++ ": " ++ reason
  | .notAMapping path => "Config file " ++ path ++ " must contain a mapping"

/-- Why the system does not give a file. -/
inductive FileProblem
  | notFound
  | notADirectory
  | isADirectory
  | nameTooLong
  /-- Any other reason, such as a missing permission, with the number and the words of the system. -/
  | other (number : Nat) (reason : String)
deriving DecidableEq, Repr

namespace FileProblem

def reason : FileProblem → String
  | .notFound => "No such file or directory"
  | .notADirectory => "Not a directory"
  | .isADirectory => "Is a directory"
  | .nameTooLong => "File name too long"
  | .other _ reason => reason

def number : FileProblem → Nat
  | .notFound => 2
  | .notADirectory => 20
  | .isADirectory => 21
  | .nameTooLong => 36
  | .other number _ => number

/-- The numbers that mean that nothing is there: no such file, no descriptor, no directory, a loop of links. -/
def absences : List Nat := [2, 9, 20, 40]

def isAbsence (p : FileProblem) : Bool := absences.contains p.number

end FileProblem

inductive Problem
  | nameNotFound (kind : String) (range : Range)
  | config (problem : ConfigProblem)
  | source (path : String) (problem : FileProblem)
deriving Repr

def Problem.message : Problem → String
  | .nameNotFound kind range =>
    "Cannot find the name node [" ++ kind ++ " (" ++ toString (range.start.row + 1) ++ ", " ++
      toString range.start.column ++ ") -> (" ++ toString (range.stop.row + 1) ++ ", " ++
      toString range.stop.column ++ ")]"
  | .config p => p.message
  | .source path p => "Cannot read source file " ++ path ++ ": " ++ p.reason

/-! ## Libraries -/

/-- What kind of thing a library stops with. -/
inductive LibraryError.Kind
  | value
  | type
  | key
  | index
  | attribute
  | overflow
  | division
  | recursion
  | other
deriving DecidableEq, Repr

/-- What a library outside the program stops with. -/
structure LibraryError where
  kind : LibraryError.Kind
  text : String
deriving DecidableEq, Repr

/-! ## Faults -/

inductive Fault
  | scoreNaN
  | scoreInfinite
  | unknownSeverity (given : Value)
  | unhashable (given : Value)
  | notIterable (given : Value)
  | elementNotSequence (index : Nat)
  | elementLength (index length : Nat)
  | overridesNotMapping (given : Value)
  | thresholdTooLarge
  | unknownCommand (name : String)
  | notText (error : Utf8.Error)
  | file (problem : FileProblem) (path : String)
  | nullInPath
  | longInteger (digits : Nat)
  /-- A whole number with too many digits is to be written. -/
  | unwritable
  | lineNotNumber
  | library (error : LibraryError)
deriving Repr

def longIntegerMessage (digits : Nat) : String := (Json.Error.longInteger digits).message

def Fault.message : Fault → String
  | .scoreNaN => "cannot convert float NaN to integer"
  | .scoreInfinite => "cannot convert float infinity to integer"
  | .unknownSeverity v => v.literal ++ " is not a valid Severity"
  | .unhashable v => "unhashable type: '" ++ v.kind ++ "'"
  | .notIterable v => "'" ++ v.kind ++ "' object is not iterable"
  | .elementNotSequence i =>
    "cannot convert dictionary update sequence element #" ++ toString i ++ " to a sequence"
  | .elementLength i n =>
    "dictionary update sequence element #" ++ toString i ++ " has length " ++ toString n ++ "; 2 is required"
  | .overridesNotMapping v =>
    "dataclasses.replace() argument after ** must be a mapping, not " ++ v.kind
  | .thresholdTooLarge => "int too large to convert to float"
  | .unknownCommand name => Text.quote name
  | .notText e => e.message
  | .file p path => "[Errno " ++ toString p.number ++ "] " ++ p.reason ++ ": " ++ Text.quote path
  | .nullInPath => "embedded null byte"
  | .longInteger n => longIntegerMessage n
  | .unwritable =>
    "Exceeds the limit (4300 digits) for integer string conversion; " ++
      "use sys.set_int_max_str_digits() to increase the limit"
  | .lineNotNumber => "unsupported operand type(s) for -: 'list' and 'int'"
  | .library e => e.text

inductive Failure
  | problem (problem : Problem)
  | fault (fault : Fault)
deriving Repr

def Failure.message : Failure → String
  | .problem p => p.message
  | .fault f => f.message

/-- The answer of a computation that may fail. -/
abbrev Outcome := Except Failure

def refuse {α : Type} (p : Problem) : Outcome α := .error (.problem p)

def fail {α : Type} (f : Fault) : Outcome α := .error (.fault f)

/-- What a library answers; its error is a fault. -/
def ofLibrary {α : Type} (x : Except LibraryError α) : Outcome α := x.mapError fun e => .fault (.library e)

/-- A text that is there unless a whole number in it has too many digits. -/
def written (text : Option String) : Outcome String :=
  match text with
  | some s => .ok s
  | none => fail .unwritable

/-- Stops because no name was found in a node, if its place can be written. -/
def refuseName {α : Type} (kind : String) (range : Range) : Outcome α :=
  let places := [range.start.row + 1, range.start.column, range.stop.row + 1, range.stop.column]
  if places.all fun n => (Number.digits? n).isSome then refuse (.nameNotFound kind range) else fail .unwritable

end FunctionMetrics
