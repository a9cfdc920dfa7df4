import FunctionMetrics.Text.Case

/-! # Paths

A path is a text, on the command line and in a report too. Names of files whose bytes are no UTF-8 are not among
them. -/

namespace FunctionMetrics

/-- A path without its idle parts: empty ones, single dots and slashes at its end. -/
structure Path where
  /-- The slashes that an absolute path starts with. -/
  root : String
  parts : List String
deriving DecidableEq, Repr, Inhabited

namespace Path

def rootOf (text : String) : String :=
  if ! text.startsWith "/" then ""
  else if text.startsWith "//" ∧ ¬ text.startsWith "///" then "//"
  else "/"

def partsOf (text : String) : List String := (text.toList.splitOn '/').map String.ofList

def ofText (text : String) : Path :=
  ⟨rootOf text, (partsOf text).filter fun part => part ≠ "" ∧ part ≠ "."⟩

def text (p : Path) : String :=
  if p.root = "" ∧ p.parts = [] then "." else p.root ++ "/".intercalate p.parts

def name (p : Path) : String := p.parts.getLast?.getD ""

/-- The name from its last dot on, unless that dot is its first or last character. -/
def suffix (p : Path) : String :=
  let cs := p.name.toList
  let behind := cs.reverse.takeWhile (· ≠ '.')
  if behind.length + 1 < cs.length ∧ behind ≠ [] then String.ofList ('.' :: behind.reverse) else ""

def kind (p : Path) : String := Text.lowerText p.suffix

end Path

end FunctionMetrics
