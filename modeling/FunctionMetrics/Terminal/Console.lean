import FunctionMetrics.Popup.Sheet
import FunctionMetrics.Terminal.Picture
import FunctionMetrics.Terminal.Wrap

/-! # A console on a terminal

A frame is as wide as the widest line needs, and no wider than the terminal. Each line stands between two sides with
a blank at either end, and is filled up to the width of the frame. A terminal too narrow for a line shows the top and
the bottom alone, and one without any cells shows nothing. -/

namespace FunctionMetrics

structure Terminal where
  width : Nat := 80
  color : Bool := false
deriving DecidableEq, Repr

namespace Terminal

open Popup (Box Outline Sheet printed)

def frame : Box → Outline
  | .square => ⟨'┌', '┐', '└', '┘', '─', '│'⟩
  | .double => ⟨'╔', '╗', '╚', '╝', '═', '║'⟩
  | .rounded => ⟨'╭', '╮', '╰', '╯', '─', '│'⟩
  | .heavy => ⟨'┏', '┓', '┗', '┛', '━', '┃'⟩

/-- The codes of the styles that there are. -/
def pens : List (String × String) := [("dim", "2"), ("yellow", "33"), ("bold red", "1;31")]

/-- A piece of a frame, drawn in a style where there is color. -/
def paint (t : Terminal) (style piece : String) : String :=
  match pens.lookup style with
  | some pen => if t.color then "\x1b[" ++ pen ++ "m" ++ piece ++ "\x1b[0m" else piece
  | none => piece

/-- The cells between the sides of a frame around a text. -/
def frameWidth (t : Terminal) (body : List Char) : Nat := min (widest body + 2) (t.width - 2)

/-- The top or the bottom of a frame, as far as the terminal shows it. -/
def edge (t : Terminal) (left across right : Char) (width : Nat) : String :=
  String.ofList ((left :: List.replicate width across ++ [right]).take t.width)

/-- A line between blanks in `room` cells; one that measures more takes the place of the blank behind it. -/
def padded (room : Nat) (cs : List Char) : Except Uncut String := do
  if cells cs ≤ room then return " " ++ String.ofList (padTo room cs) ++ " "
  else return " " ++ String.ofList (← crop (room + 1) cs)

def panel (t : Terminal) (f : Outline) (style : String) (body : List Char) : Except Uncut (List String) := do
  let width := t.frameWidth body
  let room := width - 2
  let side := t.paint style f.side.toString
  let rows ← if room = 0 then pure [] else (← wrap room body).mapM (padded room)
  return [t.paint style (t.edge f.topLeft f.across f.topRight width)] ++ rows.map (side ++ · ++ side) ++
    [t.paint style (t.edge f.bottomLeft f.across f.bottomRight width)]

def rows (t : Terminal) : Sheet → Except Uncut (List String)
  | .text body => return (← wrap t.width (dropSignals body.toList)).map String.ofList
  | .panel body box style => t.panel (frame box) style (dropSignals body.toList)
  | .notice text =>
    let cs := text.toList
    return (← wrap t.width (dropSignals (withPictures (cs.length + 1) cs))).map String.ofList

/-- A text that cannot be cut where a line of the terminal ends stops the console. -/
def console (t : Terminal) : Console := fun s =>
  if t.width = 0 then .ok "" else ((t.rows s).map printed).mapError Uncut.error

end Terminal

end FunctionMetrics
