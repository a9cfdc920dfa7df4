import FunctionMetrics.Number.Rounding

/-! # Binary floating point of 64 bits

A finite value is a sign and a whole number of units of `2 ^ -1074`, the smallest positive value. Of the
whole numbers only those are taken that are 53 bits wide after their trailing zeros; every operation rounds
its exact result to the nearest of them, a half to the even neighbour. -/

namespace FunctionMetrics

/-- The size of a finite value: `digits * 2 ^ scale` units. -/
structure Magnitude where
  digits : Nat
  scale : Nat
  /-- The digits have at most 53 bits. -/
  digits_lt : digits < 9007199254740992
  scale_le : scale ≤ 2045
  /-- All 53 bits are used, unless the smallest scale is reached. -/
  normal : scale = 0 ∨ 4503599627370496 ≤ digits
deriving DecidableEq, Repr

namespace Magnitude

def units (m : Magnitude) : Nat := m.digits <<< m.scale

def zero : Magnitude := ⟨0, 0, by decide, by decide, .inl rfl⟩

instance : Inhabited Magnitude := ⟨zero⟩

def ofParts? (digits scale : Nat) : Option Magnitude :=
  if h : digits < 9007199254740992 ∧ scale ≤ 2045 ∧ (scale = 0 ∨ 4503599627370496 ≤ digits) then
    some ⟨digits, scale, h.1, h.2.1, h.2.2⟩
  else none

/-- The magnitude nearest to `num / den` units, or `none` where that is beyond the largest one. -/
def nearest? (num den : Nat) : Option Magnitude :=
  let scale := (num / den).log2 - 52
  let digits := roundHalfEven num (den <<< scale)
  if digits = 9007199254740992 then ofParts? 4503599627370496 (scale + 1) else ofParts? digits scale

def unitsInOne : Nat := 1 <<< 1074

def ofDecimal? (digits : Nat) (exponent : Int) : Option Magnitude :=
  let leading := decimalLength digits + exponent
  if digits = 0 ∨ leading < -330 then some zero
  else if 310 < leading then none
  else if 0 ≤ exponent then nearest? (digits * Nat.pow 10 exponent.toNat * unitsInOne) 1
  else nearest? (digits * unitsInOne) (Nat.pow 10 (-exponent).toNat)

/-- A power of two of units, so an exact magnitude. -/
def ofPower (scale : Nat) (h : scale ≤ 2045 := by decide) : Magnitude :=
  ⟨4503599627370496, scale, by decide, h, .inr (Nat.le_refl _)⟩

def half : Magnitude := ofPower 1021
def one : Magnitude := ofPower 1022

def add? (a b : Magnitude) : Option Magnitude :=
  if b.digits = 0 then some a else nearest? (a.units + b.units) 1

def mul? (a b : Magnitude) : Option Magnitude := nearest? (a.units * b.units) unitsInOne

end Magnitude

inductive Binary64
  | nan
  | infinity (negative : Bool)
  | finite (negative : Bool) (size : Magnitude)
deriving DecidableEq, Repr, Inhabited

namespace Binary64

def zero : Binary64 := .finite false .zero
def half : Binary64 := .finite false .half
def one : Binary64 := .finite false .one

/-- A size with its sign, too large a one as infinity. -/
def ofSize (negative : Bool) : Option Magnitude → Binary64
  | some m => .finite negative m
  | none => .infinity negative

def isFinite : Binary64 → Bool
  | .finite .. => true
  | _ => false

def neg : Binary64 → Binary64
  | .nan => .nan
  | .infinity s => .infinity (!s)
  | .finite s m => .finite (!s) m

def units? : Binary64 → Option Int
  | .finite s m => some (if s then -(m.units : Int) else m.units)
  | _ => none

/-- The nearest number to a signed count of units; zero is positive. -/
def ofUnits (n : Int) : Binary64 := ofSize (n < 0) (Magnitude.nearest? n.natAbs 1)

def add : Binary64 → Binary64 → Binary64
  | .nan, _ | _, .nan => .nan
  | .infinity s, .infinity t => if s = t then .infinity s else .nan
  | .infinity s, _ | _, .infinity s => .infinity s
  | .finite s a, .finite t b =>
    if s = t then ofSize s (a.add? b)
    else ofUnits (if s then (b.units : Int) - a.units else (a.units : Int) - b.units)

def mul : Binary64 → Binary64 → Binary64
  | .nan, _ | _, .nan => .nan
  | .infinity s, .infinity t => .infinity (s != t)
  | .infinity s, .finite t m | .finite s m, .infinity t =>
    if m.digits = 0 then .nan else .infinity (s != t)
  | .finite s a, .finite t b => ofSize (s != t) (a.mul? b)

instance : Add Binary64 := ⟨add⟩
instance : Mul Binary64 := ⟨mul⟩
instance : Neg Binary64 := ⟨neg⟩

/-- The number nearest to a whole one, or `none` where it is too large. -/
def ofInt? (n : Int) : Option Binary64 :=
  (Magnitude.nearest? (n.natAbs * Magnitude.unitsInOne) 1).map (.finite (n < 0))

/-- The number nearest to `digits * 10 ^ exponent`, with a sign. -/
def ofDecimal (negative : Bool) (digits : Nat) (exponent : Int) : Binary64 :=
  ofSize negative (Magnitude.ofDecimal? digits exponent)

end Binary64

end FunctionMetrics
