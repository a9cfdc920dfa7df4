import FunctionMetrics.Terminal.CellTable
import FunctionMetrics.Text.Codes

/-! # Cells of a terminal

A character takes no cell, one or two. A joiner hides the character behind it, and the sign for pictures widens the
one before it. -/

namespace FunctionMetrics.Terminal

open Text

def isControl (n : Nat) : Bool := (0 < n && n < 0x20) || (0x7F ≤ n && n < 0xA0)

def cellWidth (c : Char) : Nat :=
  let n := c.toNat
  if 0x20 ≤ n ∧ n < 0x7F then 1
  else if isControl n then 0
  else if inRanges zeroWidthRanges n then 0
  else if inRanges wideRanges n then 2
  else 1

def joiner : Char := '\u200D'
def pictureSign : Char := '\uFE0F'

/-- Whether the sign for pictures widens a character. -/
def isWidened (c : Char) : Bool := inRanges widenedRanges c.toNat

/-- The cells of a text; `last` is the character that a sign for pictures would widen. -/
def cellsAfter (last : Option Char) : List Char → Nat
  | [] => 0
  | c :: rest =>
    if c = joiner then
      match rest with
      | [] => 0
      | _ :: rest => cellsAfter last rest
    else if c = pictureSign then (if last.any isWidened then 1 else 0) + cellsAfter none rest
    else if cellWidth c = 0 then cellsAfter last rest
    else cellWidth c + cellsAfter (some c) rest

def cells (cs : List Char) : Nat := cellsAfter none cs

end FunctionMetrics.Terminal
