import FunctionMetrics.Number.Binary64

/-! # Decimal text of a binary number

The digits are chosen first, either the fewest that read back as the number or a given count; then a layout
says where the point stands and when an exponent is written. -/

namespace FunctionMetrics

/-- Decimal digits with the point behind the first one, times a power of ten. -/
structure Significand where
  /-- The digits as one whole number. -/
  digits : Nat
  /-- The power of ten of the first digit. -/
  exponent : Int
deriving DecidableEq, Repr

namespace Magnitude

/-- The power of ten of the first digit of a magnitude above zero. -/
def decimalExponent (m : Magnitude) : Int :=
  decimalLength (m.units * Nat.pow 10 324 / unitsInOne) - 325

/-- How many steps of `10 ^ e` a magnitude is, as a fraction. -/
def inSteps (m : Magnitude) (e : Int) : Nat × Nat :=
  if 0 ≤ e then (m.units, Nat.pow 10 e.toNat * unitsInOne) else (m.units * Nat.pow 10 (-e).toNat, unitsInOne)

/-- The decimal with `count` digits nearest to `m`, if it reads back as `m`. -/
def shortAt? (m : Magnitude) (count : Nat) : Option Significand :=
  let grid := m.decimalExponent - count + 1
  let steps := m.inSteps grid
  let reads (d : Nat) : Bool := ofDecimal? d grid = some m
  let low := steps.1 / steps.2
  let near := roundHalfEven steps.1 steps.2
  let far := if near = low then low + 1 else low
  let keep (d : Nat) : Significand := ⟨d, grid + decimalLength d - 1⟩
  if reads near then some (keep near) else if reads far then some (keep far) else none

/-- The fewest digits that read back as `m`, and of those the nearest; 17 always do. -/
def shortest (m : Magnitude) : Significand :=
  ((List.range 17).findSome? (fun i => m.shortAt? (i + 1))).getD ⟨0, 0⟩

/-- `m` rounded to `count` digits, a half to the even neighbour. -/
def significant (m : Magnitude) (count : Nat) : Significand :=
  let grid := m.decimalExponent - count + 1
  let steps := m.inSteps grid
  let digits := roundHalfEven steps.1 steps.2
  ⟨digits, grid + decimalLength digits - 1⟩

end Magnitude

structure Layout where
  /-- Below this power of ten an exponent is written. -/
  lowest : Int
  /-- From this power of ten on an exponent is written. -/
  limit : Int
  /-- A whole number is written with `.0`. -/
  pointZero : Bool

namespace Layout

/-- A binary number reads back from its text: a point always, an exponent below `1e-4` and from `1e16` on. -/
def exact : Layout := ⟨-4, 16, true⟩

/-- Ten digits at most, without a useless point. -/
def brief : Layout := ⟨-4, 10, false⟩

def zeros (n : Nat) : String := String.ofList (List.replicate n '0')

/-- The exponent with its sign and two digits at least. -/
def exponentText (e : Int) : String :=
  let size := toString e.natAbs
  "e" ++ (if e < 0 then "-" else "+") ++ zeros (2 - size.length) ++ size

/-- The digits of a significand without the zeros at its end, and zero as one digit. -/
def digitText (d : Nat) : String :=
  match ((Nat.toDigits 10 d).reverse.dropWhile (· = '0')).reverse with
  | [] => "0"
  | cs => String.ofList cs

def withPoint (whole fraction : String) : String := if fraction = "" then whole else whole ++ "." ++ fraction

def write (l : Layout) (s : Significand) : String :=
  let ds := digitText s.digits
  if s.exponent < l.lowest ∨ l.limit ≤ s.exponent then
    withPoint (ds.take 1).toString (ds.drop 1).toString ++ exponentText s.exponent
  else if s.exponent < 0 then
    "0." ++ zeros (s.exponent.natAbs - 1) ++ ds
  else
    let places := s.exponent.toNat + 1
    let whole := (ds.take places).toString ++ zeros (places - ds.length)
    let fraction := (ds.drop places).toString
    withPoint whole (if fraction = "" ∧ l.pointZero then "0" else fraction)

end Layout

namespace Binary64

def signText (negative : Bool) : String := if negative then "-" else ""

/-- Text laid out by `l` with the digits that `choose` takes. -/
def textWith (l : Layout) (choose : Magnitude → Significand) : Binary64 → String
  | .nan => "nan"
  | .infinity s => signText s ++ "inf"
  | .finite s m => signText s ++ l.write (if m.digits = 0 then ⟨0, 0⟩ else choose m)

def text : Binary64 → String := textWith .exact (·.shortest)

def briefText : Binary64 → String := textWith .brief (·.significant 10)

end Binary64

end FunctionMetrics
