import FunctionMetrics.Files.Basic
import FunctionMetrics.Options.Basic
import FunctionMetrics.Value.Knot
import FunctionMetrics.Yaml.Answer

/-! # Options from a file

A file with the suffix `.json` is read as JSON and any other as YAML. The settings may stand in a section of their
own. -/

namespace FunctionMetrics.Options

def sectionKey : String := "kokwame"

def unifyBreaks : List Char → List Char
  | '\r' :: '\n' :: rest => '\n' :: unifyBreaks rest
  | '\r' :: rest => '\n' :: unifyBreaks rest
  | c :: rest => c :: unifyBreaks rest
  | [] => []

def unified (text : String) : String := String.ofList (unifyBreaks text.toList)

/-- The text that bytes spell, with one kind of line break. -/
def textOf (bytes : List UInt8) : Outcome String :=
  match Utf8.decode bytes with
  | .error e => fail (.notText e)
  | .ok text => .ok (unified text)

def readJson (path text : String) : Outcome Value :=
  match Json.read text with
  | .ok v => .ok v
  | .error (.longInteger n) => fail (.longInteger n)
  | .error e => refuseConfig (.malformed path e.message)

/-- The value that a YAML file spells; one that is empty stands for no settings. -/
def readYaml (yaml : Yaml.Reader) (path text : String) : Outcome Value :=
  match yaml text with
  | .ok v => .ok (if v.isEmpty then .map [] else v)
  | .error (.malformed reason) => refuseConfig (.malformed path reason)
  | .error (.stopped e) => fail (.library e)

/-- The settings of a file's mapping: those of the section if there is one. -/
def settingsOf (es : Entries) : Entries :=
  match (es.field? sectionKey).map Value.unfold with
  | some (.map inner) => inner
  | _ => es

/-- The text of the file at `path`, which is named so in messages. -/
def readText (fs : Files) (path : String) : Outcome String :=
  if ! isUsablePath path then refuseConfig (.missing path)
  else
    let p := Path.ofText path
    match fs.resolve p with
    | .error e => if e.isAbsence then refuseConfig (.missing path) else fail (.file e p.text)
    | .ok _ =>
      match fs.read p with
      | .error e => fail (.file e p.text)
      | .ok bytes => textOf bytes

def readEntries (yaml : Yaml.Reader) (fs : Files) (path : String) : Outcome Entries := do
  let text ← readText fs path
  let v ← if (Path.ofText path).kind = ".json" then readJson path text else readYaml yaml path text
  match v.unfold with
  | .map es => .ok (settingsOf es)
  | _ => refuseConfig (.notAMapping path)

/-- The options that the file at `path` gives; without a path all is as by default. -/
def load (yaml : Yaml.Reader) (fs : Files) (path : Option String) : Outcome Options :=
  match path with
  | none | some "" => .ok default
  | some path => do ofEntries (← readEntries yaml fs path)

end FunctionMetrics.Options
