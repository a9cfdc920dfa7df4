import FunctionMetrics.Source.Language
import FunctionMetrics.Workspace

/-! # From a source to its tree

The language of a file is settled first; without one the file is not read at all. It is read before a parser is asked
for, so a file that cannot be read is a problem even where there are no parsers. -/

namespace FunctionMetrics

structure Parsed where
  path : String
  language : String
  source : List UInt8
  root : Node

def bufferPath : String := "<buffer>"

def parseSource (parsers : Parsers) (source : List UInt8) (language path : String) : Run (Option Parsed) :=
  match parsers with
  | none => do
    Run.log .info .parsing ("tree_sitter_languages is not installed; no syntax tree for " ++ path)
    return none
  | some parserOf => do
    let language := Language.canonical language
    Run.emit (.asked language)
    let parse ← ofLibrary (parserOf language)
    Run.emit (.parsed language source)
    return some { path, language, source, root := parse source }

def readSource (fs : Files) (path : String) : Outcome (List UInt8) :=
  if ! isUsablePath path then fail .nullInPath
  else match fs.read (Path.ofText path) with
    | .ok bytes => .ok bytes
    | .error p => refuse (.source path p)

def parseFile (w : Workspace) (path : String) (language : Option String) : Run (Option Parsed) :=
  match Language.resolve? language path with
  | none => do
    Run.log .info .parsing ("No parser for " ++ path)
    return none
  | some language => do
    let source ← readSource w.files path
    parseSource w.parsers source language path

inductive TreeSource
  | tree (root : Option Node)
  /-- The file is read and parsed each time. -/
  | file (path : String) (language : Option String)

def TreeSource.current (s : TreeSource) (w : Workspace) : Run (Option Node) :=
  match s with
  | .tree root => pure root
  | .file path language => do return (← parseFile w path language).map (·.root)

end FunctionMetrics
