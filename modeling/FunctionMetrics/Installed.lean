import FunctionMetrics.Terminal.Console
import FunctionMetrics.Workspace
import FunctionMetrics.Yaml.Reader

/-! # The libraries of the program

A reader of YAML and a console that come with the program. Nothing else knows of them. -/

namespace FunctionMetrics

def installed (t : Terminal) (files : Files) (parsers : Parsers) : Workspace where
  files := files
  parsers := parsers
  yaml := Yaml.reader
  console := t.console

end FunctionMetrics
