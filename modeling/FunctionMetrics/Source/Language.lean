import FunctionMetrics.Files.Path

/-! # Languages

The languages whose functions can be named, with the suffixes of their files. -/

namespace FunctionMetrics.Language

def suffixes : List (String × List String) :=
  [("python", [".py"]), ("php", [".php"]), ("c", [".c", ".h"]),
   ("cpp", [".cc", ".cpp", ".cxx", ".hh", ".hpp", ".hxx"]), ("java", [".java"]), ("c_sharp", [".cs"])]

def aliases : List (String × String) := [("csharp", "c_sharp")]

def canonical (language : String) : String := (aliases.lookup language).getD language

/-- The language of a file by its suffix; capital letters do not matter. -/
def ofPath? (path : String) : Option String :=
  let kind := (Path.ofText path).kind
  (suffixes.find? fun (_, kinds) => kinds.contains kind).map (·.1)

/-- The language that is given, or else the one of the path; an empty name is none. -/
def resolve? (given : Option String) (path : String) : Option String :=
  match given with
  | none | some "" => ofPath? path
  | some language => some language

end FunctionMetrics.Language
