import FunctionMetrics.Value.Basic

/-! # Text of a value in a message

A value is shown by a literal. A collection inside itself is shown by dots, and a whole number with too many digits has
no text at all. -/

namespace FunctionMetrics.Value

/-- What is shown in place of a collection that is being shown already. -/
def dots : Value → String
  | .map _ => "\x7b...\x7d"
  | _ => "[...]"

mutual

/-- The literal of a value; `cell` gives that of the collections it refers to. -/
def literalWith (cell : Nat → Option String) : Value → Option String
  | .null => some "None"
  | .bool b => some (if b then "True" else "False")
  | .number n => n.text?
  | .text s => some (Text.quote s)
  | .broken cs => some (Text.quoteCodes cs)
  | .bytes b => some (Text.quoteBytes b)
  | .date d => some d.literal
  | .moment m => some m.literal
  | .list xs => (literals cell xs).map fun s => "[" ++ s ++ "]"
  | .pair a b => do return "(" ++ (← literalWith cell a) ++ ", " ++ (← literalWith cell b) ++ ")"
  | .map es => (entryLiterals cell es).map fun s => "\x7b" ++ s ++ "\x7d"
  | .set [] => some "set()"
  | .set xs => (literals cell xs).map fun s => "\x7b" ++ s ++ "\x7d"
  | .again n | .knot _ n => cell n

def literals (cell : Nat → Option String) : List Value → Option String
  | [] => some ""
  | [x] => literalWith cell x
  | x :: y :: rest => do return (← literalWith cell x) ++ ", " ++ (← literals cell (y :: rest))

def entryLiterals (cell : Nat → Option String) : List (Value × Value) → Option String
  | [] => some ""
  | [(k, v)] => do return (← literalWith cell k) ++ ": " ++ (← literalWith cell v)
  | (k, v) :: e :: rest => do
    return (← literalWith cell k) ++ ": " ++ (← literalWith cell v) ++ ", " ++ (← entryLiterals cell (e :: rest))

end

/-- The literal of a cell inside the cells `around`, each of which is shown only once on the way. -/
def cellLiteral (cells : List Value) (fuel : Nat) (around : List Nat) (n : Nat) : Option String :=
  match fuel with
  | 0 => none
  | fuel + 1 => do
    let v ← cells[n]?
    if around.contains n then return v.dots
    literalWith (cellLiteral cells fuel (n :: around)) v

/-- The literal that a value is shown by; none if it holds a whole number with too many digits. -/
def literal? : Value → Option String
  | .knot cells start => cellLiteral cells (cells.length + 1) [] start
  | v => literalWith (fun _ => none) v

def literal (v : Value) : String := v.literal?.getD ""

/-- A text as it is, a day and a moment as one writes them, all else as its literal. -/
def plain? : Value → Option String
  | .text s => some s
  | .broken cs => some cs.shown
  | .date d => some d.text
  | .moment m => some m.text
  | v => v.literal?

def plain (v : Value) : String := v.plain?.getD ""

end FunctionMetrics.Value
