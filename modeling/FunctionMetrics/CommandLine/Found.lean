import FunctionMetrics.CommandLine.Option
import FunctionMetrics.Text.Quoted

/-! # What a command line says

The arguments from first to last: options with their values, the argument of the command, and what is left over. What
is found before something that is refused has been acted on already. -/

namespace FunctionMetrics.CommandLine

inductive Found
  /-- An option; a lone double dash attached to it is no value. -/
  | option (s : Switch) (value : Option String)
  | argument (args : List String)
  | extra (arg : String)
  /-- An option that is used in a wrong way; nothing behind it is looked at. -/
  | refused (s : Switch) (reason : String)
deriving DecidableEq, Repr

def ignored (attached : String) : String := "ignored explicit argument " ++ Text.quote attached

def attachedValue (text : String) : Option String := if text = "--" then none else some text

/-- Options of one letter in one argument: those before `attached`, the option `s`, and the letters attached to it. -/
def shortOptions (f : Form) (s : Switch) (before : List Found) :
    List Char → Found × List Found
  | [] => (.option s none, before)
  | c :: rest =>
    match f.spellings.lookup (String.ofList ['-', c]) with
    | none => (.refused s (ignored (String.ofList (c :: rest))), [])
    | some next => shortOptions f next (before ++ [.option s none]) rest

def attachedOption (f : Form) (s : Switch) (name attached : String) : List Found :=
  if s.takesValue then [.option s (attachedValue attached)]
  else if name.startsWith "--" ∨ attached = "" then [.refused s (ignored attached)]
  else
    let (last, before) := shortOptions f s [] attached.toList
    before ++ [last]

/-- Reads marked arguments; `isOpen` says that the argument of the command is still to come. -/
def scan (f : Form) (isOpen : Bool) : List (String × Mark) → List Found
  | [] => []
  | (arg, .unknown) :: rest => .extra arg :: scan f isOpen rest
  | (_, .option s name (some attached)) :: rest =>
    attachedOption f s name attached ++ scan f isOpen rest
  | [(_, .option s _ none)] =>
    if s.takesValue then [.refused s "expected one argument"] else [.option s none]
  | (_, .option s _ none) :: (value, mark) :: rest =>
    if ¬ s.takesValue then .option s none :: scan f isOpen ((value, mark) :: rest)
    else if mark = .plain then .option s (some value) :: scan f isOpen rest
    else [.refused s "expected one argument"]
  | (arg, .plain) :: rest =>
    if ¬ isOpen then .extra arg :: scan f isOpen rest
    else if f.takesRest then [.argument (arg :: rest.map (·.1))]
    else match rest with
      | (_, .separator) :: rest => .argument [arg] :: scan f false rest
      | rest => .argument [arg] :: scan f false rest
  | [(arg, .separator)] => [.extra arg]
  | (arg, .separator) :: (next, mark) :: rest =>
    if ¬ isOpen then .extra arg :: scan f isOpen ((next, mark) :: rest)
    else if f.takesRest then [.argument (arg :: next :: rest.map (·.1))]
    else .argument [next] :: scan f false rest

/-- What a command line says, unless an argument may mean several options. -/
def read (f : Form) (args : List String) : Except Ambiguity (List Found) :=
  (markAll f args).map (scan f true)

end FunctionMetrics.CommandLine
