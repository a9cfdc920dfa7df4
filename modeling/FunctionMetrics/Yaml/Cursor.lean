import FunctionMetrics.Yaml.Fault
import FunctionMetrics.Yaml.Token

/-! # A place in a document -/

namespace FunctionMetrics.Yaml

inductive Stop
  | malformed
  | fault (f : ScalarFault)
deriving DecidableEq, Repr

structure Cursor where
  rest : List Char
  index : Nat := 0
  line : Nat := 0
  column : Nat := 0

namespace Cursor

def peek? (c : Cursor) : Option Char := c.rest.head?

def ahead? (c : Cursor) (n : Nat) : Option Char := c.rest[n]?

/-- One character on; a byte order mark takes no column. -/
def next (c : Cursor) : Cursor :=
  match c.rest with
  | [] => c
  | x :: rest =>
    if isBreak x then ⟨rest, c.index + 1, c.line + 1, 0⟩
    else ⟨rest, c.index + 1, c.line, if x = '\uFEFF' then c.column else c.column + 1⟩

def skip (c : Cursor) : Nat → Cursor
  | 0 => c
  | n + 1 => c.next.skip n

def takeWhile (c : Cursor) (p : Char → Bool) : List Char × Cursor :=
  let taken := c.rest.takeWhile p
  (taken, c.skip taken.length)

def skipWhile (c : Cursor) (p : Char → Bool) : Cursor := (c.takeWhile p).2

def skipSpaces (c : Cursor) : Cursor := c.skipWhile (· = ' ')

/-- The line break here, and the place behind it; the two wide ones are kept as they are. -/
def lineBreak (c : Cursor) : List Char × Cursor :=
  match c.peek? with
  | some x => if isBreak x then ([if x = '\x85' then '\n' else x], c.next) else ([], c)
  | none => ([], c)

/-- Three signs of one kind that stand alone. -/
def isMarker (c : Cursor) (sign : Char) : Bool :=
  c.rest.take 3 = [sign, sign, sign] ∧ isBlankOrEnd (c.ahead? 3)

def isSeparator (c : Cursor) : Bool := c.isMarker '-' ∨ c.isMarker '.'

/-- Skips blanks, a comment and the break of the line; nothing else may stand there. -/
def endLine (c : Cursor) : Except Stop Cursor :=
  let c := c.skipSpaces
  let c := if c.peek? = some '#' then c.skipWhile (! isBreak ·) else c
  if isBreakOrEnd c.peek? then .ok c.lineBreak.2 else .error .malformed

end Cursor

end FunctionMetrics.Yaml
