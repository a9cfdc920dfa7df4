import FunctionMetrics.Failure
import FunctionMetrics.Files.Path

/-! # Files

A file system is given by the names that lead from its root to each file and directory, and by the working
directory. What is on the way to something that is there is a directory too. The system may refuse what is asked of a
place, whatever is there. -/

namespace FunctionMetrics

/-- What is asked of the system at a place. -/
inductive Files.Act
  /-- To look for something in a directory. -/
  | enter
  /-- To find what is at a place. -/
  | find
  | read
  | write
deriving DecidableEq, Repr

structure Files where
  /-- The working directory. -/
  here : List String := []
  directories : List (List String) := []
  contents : List (List String × List UInt8) := []
  /-- What the system refuses at a place, and why: a permission that is missing, a link that leads to itself. -/
  refusals : List ((Files.Act × List String) × FileProblem) := []
deriving DecidableEq, Repr, Inhabited

namespace Files

def longestName : Nat := 255

/-- Paths of this many bytes or more are refused. -/
def pathLimit : Nat := 4096

def bytesAt? (fs : Files) (names : List String) : Option (List UInt8) := fs.contents.lookup names

def refusal? (fs : Files) (act : Act) (names : List String) : Option FileProblem := fs.refusals.lookup (act, names)

/-- Goes on where the system does not refuse. -/
def allow (fs : Files) (act : Act) (names : List String) : Except FileProblem Unit :=
  match fs.refusal? act names with
  | some p => .error p
  | none => .ok ()

def isDirectory (fs : Files) (names : List String) : Bool :=
  names.isPrefixOf fs.here || fs.directories.any names.isPrefixOf ||
    fs.contents.any fun (place, _) => names.isPrefixOf place && names ≠ place

def exists? (fs : Files) (names : List String) : Bool := fs.isDirectory names || (fs.bytesAt? names).isSome

/-- Where a name leads from a directory, whether something is there or not. -/
def child (names : List String) (name : String) : List String :=
  if name = ".." then names.dropLast else names ++ [name]

/-- Looks for a name in a directory; says where it leads, whether something is there or not. -/
def enter (fs : Files) (names : List String) (name : String) : Except FileProblem (List String) := do
  if ¬ fs.isDirectory names then .error .notADirectory
  fs.allow .enter names
  if longestName < name.utf8ByteSize then .error .nameTooLong
  fs.allow .find (child names name)
  return child names name

/-- Follows names from a directory; all but the last one lead through directories. -/
def follow (fs : Files) (names : List String) : List String → Except FileProblem (List String)
  | [] => .ok names
  | name :: rest => do
    let place ← fs.enter names name
    if fs.exists? place then fs.follow place rest else .error .notFound

def startOf (fs : Files) (p : Path) : List String := if p.root = "" then fs.here else []

def resolve (fs : Files) (p : Path) : Except FileProblem (List String) :=
  if pathLimit ≤ p.text.utf8ByteSize then .error .nameTooLong else fs.follow (fs.startOf p) p.parts

def read (fs : Files) (p : Path) : Except FileProblem (List UInt8) := do
  let names ← fs.resolve p
  fs.allow .read names
  match fs.bytesAt? names with
  | some bytes => .ok bytes
  | none => .error .isADirectory

def put (fs : Files) (names : List String) (bytes : List UInt8) : Files :=
  { fs with contents := (names, bytes) :: fs.contents.filter fun (place, _) => place ≠ names }

/-- Writes a file, a new one or over an old one; its directory has to be there. -/
def write (fs : Files) (p : Path) (bytes : List UInt8) : Except FileProblem Files :=
  match p.parts.getLast? with
  | none => .error .isADirectory
  | some name => do
    if pathLimit ≤ p.text.utf8ByteSize then .error .nameTooLong
    let place ← fs.enter (← fs.follow (fs.startOf p) p.parts.dropLast) name
    if fs.isDirectory place then .error .isADirectory
    fs.allow .write place
    return fs.put place bytes

end Files

/-- Whether a path can be handed to the system at all. -/
def isUsablePath (text : String) : Bool := ! text.contains '\x00'

end FunctionMetrics
