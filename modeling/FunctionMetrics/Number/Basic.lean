import FunctionMetrics.Number.Layout

/-! # Numbers

Scores and thresholds are whole numbers of any size or floating point ones. They are compared by their exact
value, so a whole number is never rounded for a comparison. -/

namespace FunctionMetrics

inductive Number
  | int (n : Int)
  | float (x : Binary64)
deriving DecidableEq, Repr, Inhabited

instance (n : Nat) : OfNat Number n := ⟨.int n⟩

/-- A point of the number line with its two ends, counted in units of `2 ^ -1074`. -/
inductive Place
  | bottom
  | at (units : Int)
  | top
deriving DecidableEq, Repr

namespace Place

def lt : Place → Place → Bool
  | .bottom, .bottom => false
  | .bottom, _ => true
  | .at m, .at n => m < n
  | .at _, .top => true
  | _, _ => false

instance : LT Place := ⟨fun p q => p.lt q = true⟩
instance (p q : Place) : Decidable (p < q) := inferInstanceAs (Decidable (p.lt q = true))

end Place

namespace Number

/-- Where a number stands on the line; a NaN stands nowhere. -/
def place? : Number → Option Place
  | .int n => some (.at (n * (Magnitude.unitsInOne : Int)))
  | .float .nan => none
  | .float (.infinity negative) => some (if negative then .bottom else .top)
  | .float (.finite negative m) => some (.at (if negative then -(m.units : Int) else m.units))

/-- Strictly below, by exact value; nothing is below or above a NaN. -/
def below (a b : Number) : Bool :=
  match a.place?, b.place? with
  | some p, some q => p < q
  | _, _ => false

instance : LT Number := ⟨fun a b => a.below b = true⟩
instance (a b : Number) : Decidable (a < b) := inferInstanceAs (Decidable (a.below b = true))

/-- The same exact value; a NaN equals nothing. -/
def same (a b : Number) : Bool :=
  match a.place?, b.place? with
  | some p, some q => p = q
  | _, _ => false

def isFinite : Number → Bool
  | .int _ => true
  | .float x => x.isFinite

/-- Digits of a whole number, the shortest text that reads back for a floating point one. -/
def text : Number → String
  | .int n => toString n
  | .float x => x.text

/-! ## Limits of digits -/

/-- The most digits that a whole number is read from or written with. -/
def maxDigits : Nat := 4300

def digits? (n : Int) : Option String :=
  let ds := toString n.natAbs
  if maxDigits < ds.length then none else some (if n < 0 then "-" ++ ds else ds)

/-- The text of a number, unless it is a whole one with too many digits. -/
def text? : Number → Option String
  | .int n => digits? n
  | .float x => some x.text

end Number

end FunctionMetrics
