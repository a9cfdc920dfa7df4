import FunctionMetrics.Failure
import FunctionMetrics.Terminal.Cells

/-! # Graphemes

The pieces of a text that are not cut apart: a character with the marks over it and all that is joined to it. A text
that starts with two joiners is an odd case, as its first piece hides a character that its measure counts. -/

namespace FunctionMetrics.Terminal

structure Grapheme where
  chars : List Char
  width : Nat
deriving DecidableEq, Repr

namespace Grapheme

def extend (g : Grapheme) (cs : List Char) : Grapheme := { g with chars := g.chars ++ cs }

def widen (g : Grapheme) : Grapheme := { g with width := g.width + 1 }

end Grapheme

/-- The grapheme begun and those behind it; `last` is the character that a sign for pictures would widen. -/
def graphemesFrom (g : Grapheme) (last : Option Char) : List Char → List Grapheme
  | [] => [g]
  | c :: rest =>
    if c = joiner then
      match rest with
      | [] => [g.extend [c]]
      | d :: rest => graphemesFrom (g.extend [c, d]) last rest
    else if c = pictureSign ∧ last.any isWidened then graphemesFrom (g.extend [c]).widen none rest
    else if cellWidth c = 0 then graphemesFrom (g.extend [c]) last rest
    else g :: graphemesFrom ⟨[c], cellWidth c⟩ (some c) rest

/-- The graphemes of a text; what takes no cell at its start is one by itself. -/
def graphemes : List Char → List Grapheme
  | [] => []
  | c :: rest => graphemesFrom ⟨[c], cellWidth c⟩ (if cellWidth c = 0 then none else some c) rest

def totalWidth (gs : List Grapheme) : Nat := gs.foldl (fun sum g => sum + g.width) 0

/-- Cuts a text into parts of at most `width` cells; what takes no cell at the end is left out. -/
def chop (width : Nat) (cs : List Char) : List (List Char) :=
  let (parts, last, used) := (graphemes cs).foldl (fun (done : List (List Char) × List Char × Nat) g =>
    let (parts, line, used) := done
    if width < used + g.width then (parts ++ [line], g.chars, g.width)
    else (parts, line ++ g.chars, used + g.width)) ([], [], 0)
  if used = 0 then parts else parts ++ [last]

/-- The first `room` cells; one half of a wide character is shown by a blank. -/
def takeCells (room : Nat) : List Grapheme → List Char
  | [] => []
  | g :: rest =>
    if room = 0 then []
    else if g.width ≤ room then g.chars ++ takeCells (room - g.width) rest
    else [' ']

inductive Uncut
  /-- Its graphemes take no cell. -/
  | weightless
  /-- Its graphemes do not reach up to the cut. -/
  | short
deriving DecidableEq, Repr

def Uncut.error : Uncut → LibraryError
  | .weightless => ⟨.division, "division by zero"⟩
  | .short => ⟨.index, "list index out of range"⟩

/-- The longest start of a line that takes at most `width` cells. -/
def crop (width : Nat) (cs : List Char) : Except Uncut (List Char) :=
  if cells cs ≤ width then .ok cs
  else if width = 0 then .ok []
  else
    let gs := graphemes cs
    if totalWidth gs = 0 then .error .weightless
    else if totalWidth gs < width then .error .short
    else .ok (takeCells width gs)

end FunctionMetrics.Terminal
