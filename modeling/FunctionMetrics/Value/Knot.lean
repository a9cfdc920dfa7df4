import FunctionMetrics.Value.Basic

/-! # Knots

A knot is opened one collection at a time, so what leads back to itself is never written out. -/

namespace FunctionMetrics.Value

def tiedTo (cells : List Value) : Value → Value
  | .again n => .knot cells n
  | .pair a b => .pair (tiedTo cells a) (tiedTo cells b)
  | v => v

/-- The collection that a knot starts with, what it holds being knots again. -/
def unfold : Value → Value
  | .knot cells start =>
    match cells.getD start .null with
    | .list xs => .list (xs.map (tiedTo cells))
    | .map es => .map (es.map fun (k, v) => (k, tiedTo cells v))
    | v => v
  | v => v

mutual

/-- The cells that a value refers to, each as often as it does. -/
def references : Value → List Nat
  | .again n => [n]
  | .list xs => referencesOfAll xs
  | .pair a b => references a ++ references b
  | .map es => referencesOfEntries es
  | _ => []

def referencesOfAll : List Value → List Nat
  | [] => []
  | x :: rest => references x ++ referencesOfAll rest

def referencesOfEntries : List (Value × Value) → List Nat
  | [] => []
  | (_, v) :: rest => references v ++ referencesOfEntries rest

end

mutual

/-- A value with collections in the place of the cells it refers to. -/
def replaced (cell : Nat → Value) : Value → Value
  | .again n => cell n
  | .list xs => .list (replacedAll cell xs)
  | .pair a b => .pair (replaced cell a) (replaced cell b)
  | .map es => .map (replacedEntries cell es)
  | v => v

def replacedAll (cell : Nat → Value) : List Value → List Value
  | [] => []
  | x :: rest => replaced cell x :: replacedAll cell rest

def replacedEntries (cell : Nat → Value) : List (Value × Value) → List (Value × Value)
  | [] => []
  | (k, v) :: rest => (k, replaced cell v) :: replacedEntries cell rest

end

/-- A cell written out to a depth of `fuel` collections. -/
def unrolled (cells : List Value) (fuel : Nat) (n : Nat) : Value :=
  match fuel with
  | 0 => .null
  | fuel + 1 => replaced (unrolled cells fuel) (cells.getD n .null)

end FunctionMetrics.Value
