import FunctionMetrics.Options.Basic
import FunctionMetrics.Popup.Lines

/-! # What is put on a console

The popup of a unit is one text, in a panel unless the border is none. How texts and panels are laid out is up to the
console, which may also fail to. -/

namespace FunctionMetrics

namespace Popup

/-- The lines that a panel is drawn with. -/
inductive Box
  | square
  | double
  | rounded
  | heavy
deriving DecidableEq, Repr

/-- The characters that a box is drawn with. -/
structure Outline where
  topLeft : Char
  topRight : Char
  bottomLeft : Char
  bottomRight : Char
  across : Char
  side : Char
deriving DecidableEq, Repr

/-- What a console is asked to print. -/
inductive Sheet
  | text (body : String)
  /-- A text in a panel that is no wider than it needs; the style is that of the panel's lines. -/
  | panel (body : String) (box : Box) (style : String)
  /-- A text in which pictures may be asked for by their names. -/
  | notice (text : String)
deriving DecidableEq, Repr

end Popup

/-- A console prints a sheet or stops with an error. -/
abbrev Console := Popup.Sheet → Except LibraryError String

namespace Popup

def box? : Border → Option Box
  | .none => none
  | .single => some .square
  | .double => some .double
  | .rounded => some .rounded
  | .solid | .shadow => some .heavy

def style : Severity → String
  | .info => "dim"
  | .warning => "yellow"
  | .error => "bold red"

def sheetOf (b : Border) (s : Severity) (body : String) : Sheet :=
  match box? b with
  | none => .text body
  | some box => .panel body box (style s)

/-- The sheet for a unit: its lines, in a panel if the border is one. -/
def sheet (b : Border) (m : Measurement) : Outcome Sheet :=
  (lines m).map fun ls => sheetOf b m.severity ("\n".intercalate ls)

/-- What is printed for a unit. -/
def shown (console : Console) (b : Border) (m : Measurement) : Outcome String := do ofLibrary (console (← sheet b m))

/-- Rows, each with the end of its line. -/
def printed (rows : List String) : String := String.join (rows.map (· ++ "\n"))

def notice (console : Console) (text : String) : Outcome String := ofLibrary (console (.notice text))

end Popup

end FunctionMetrics
