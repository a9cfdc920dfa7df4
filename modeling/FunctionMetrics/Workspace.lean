import FunctionMetrics.Files.Basic
import FunctionMetrics.Popup.Sheet
import FunctionMetrics.Run
import FunctionMetrics.Yaml.Answer

/-! # What a run works with

The files, and the libraries: parsers, a reader of YAML and a console. -/

namespace FunctionMetrics

/-- The parsers that are installed, if there are any. One is looked up by its language, which may be unknown, and makes
a tree of a source. -/
abbrev Parsers := Option (String → Except LibraryError (List UInt8 → Node))

structure Workspace where
  files : Files := {}
  parsers : Parsers := none
  yaml : Yaml.Reader
  console : Console

end FunctionMetrics
