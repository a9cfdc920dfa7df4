import FunctionMetrics.Text.Blank
import FunctionMetrics.Terminal.Grapheme

/-! # Wrapping

A line that is too wide goes on in the next one, at a word if it can. Blanks stay behind the word they follow; those
that reach over the edge are cut off. -/

namespace FunctionMetrics.Terminal

open Text

/-! ## Lines -/

def splitAll (p : Char → Bool) (cs : List Char) : List (List Char) :=
  cs.foldr (fun c parts =>
    if p c then [] :: parts
    else match parts with
      | line :: rest => (c :: line) :: rest
      | [] => [[c]]) [[]]

def lines (cs : List Char) : List (List Char) := splitAll (· = '\n') cs

/-- A character that ends a line for the measure of a text. -/
def isLineEnd (c : Char) : Bool :=
  let n := c.toNat
  (0x0A ≤ n && n ≤ 0x0D) || (0x1C ≤ n && n ≤ 0x1E) || n = 0x85 || n = 0x2028 || n = 0x2029

def widest (cs : List Char) : Nat := ((splitAll isLineEnd cs).map cells).foldl max 0

def tabSize : Nat := 8

/-- A part of a line that ended at a tab, filled up to the next stop, and the column behind it. -/
def fillTab (column : Nat) (part : List Char) : List Char × Nat :=
  let column := column + cells (part ++ [' '])
  let gap := (tabSize - column % tabSize) % tabSize
  (part ++ [' '] ++ List.replicate gap ' ', column + gap)

/-- The parts between the tabs of a line, put together from `column` on. -/
def joinTabs (column : Nat) : List (List Char) → List Char
  | [] => []
  | [last] => last
  | part :: rest =>
    let (filled, column) := fillTab column part
    filled ++ joinTabs column rest

def expandTabs (cs : List Char) : List Char := joinTabs 0 (splitAll (· = '\t') cs)

/-! ## Breaks -/

/-- The first word with the blanks around it, and the rest; `none` where there is no word. -/
def nextWord? (cs : List Char) : Option (List Char × List Char) :=
  let (before, rest) := cs.span isBlank
  let (word, rest) := rest.span (! isBlank ·)
  let (behind, rest) := rest.span isBlank
  if word = [] then none else some (before ++ word ++ behind, rest)

/-- The words of a text, each with its blanks; only blanks that make up a whole text belong to no word. -/
def words (fuel : Nat) (cs : List Char) : List (List Char) :=
  match fuel with
  | 0 => []
  | fuel + 1 =>
    match nextWord? cs with
    | none => []
    | some (w, rest) => w :: words fuel rest

def trimEnd (cs : List Char) : List Char := (cs.reverse.dropWhile isBlank).reverse

/-- Lines of at most `width` cells, blanks at their ends not counted; `line` is the one begun. -/
def fill (width : Nat) (line : List Char) (used : Nat) : List (List Char) → List (List Char)
  | [] => [line]
  | w :: rest =>
    let size := cells (trimEnd w)
    if used + size ≤ width then fill width (line ++ w) (used + cells w) rest
    else if width < size then
      match chop width w with
      | [] => fill width (line ++ w) used rest
      | parts =>
        let parts := if line = [] then parts.dropWhile (· = []) else line :: parts
        let last := parts.getLast?.getD []
        parts.dropLast ++ fill width last (cells last) rest
    else if used = 0 ∨ line = [] then fill width (line ++ w) used rest
    else line :: fill width w (cells w) rest

/-- Cuts blanks off the end of a line, as many as it has characters beyond `width`. -/
def trimExcess (width : Nat) (cs : List Char) : List Char :=
  let blanks := (cs.reverse.takeWhile isBlank).length
  cs.take (cs.length - min blanks (cs.length - width))

def wrapLine (width : Nat) (cs : List Char) : Except Uncut (List (List Char)) :=
  let cs := expandTabs cs
  let parts := match words (cs.length + 1) cs with
    | [] => [cs]
    | ws => fill width [] 0 ws
  parts.mapM fun part => crop width (trimExcess width part)

def wrap (width : Nat) (cs : List Char) : Except Uncut (List (List Char)) := do
  return (← (lines cs).mapM (wrapLine width)).flatten

def padTo (width : Nat) (cs : List Char) : List Char := cs ++ List.replicate (width - cells cs) ' '

/-- Drops the signs that ring, go back or feed a line or page. -/
def dropSignals (cs : List Char) : List Char :=
  cs.filter fun c => ! (c.toNat = 7 ∨ c.toNat = 8 ∨ (11 ≤ c.toNat ∧ c.toNat ≤ 13))

end FunctionMetrics.Terminal
