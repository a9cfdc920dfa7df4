import FunctionMetrics.Proofs.Number.Exact
import FunctionMetrics.Proofs.Number.Order
import Mathlib.Algebra.Order.Field.Basic

/-! # Exact values

Whole and floating point numbers have their values in the rationals, and finite ones are compared by them. No number is
rounded to be compared. -/

namespace FunctionMetrics

open Magnitude

/-! ## Sizes -/

def Magnitude.toRat (m : Magnitude) : ℚ := (m.units : ℚ) / unitsInOne

namespace Binary64

theorem abs_value (negative : Bool) (m : Magnitude) : |(finite negative m).value| = m.toRat := by
  have hone : |(unitsInOne : ℚ)| = unitsInOne := Nat.abs_cast _
  cases negative <;> simp [value, units?, toRat, abs_div, hone]

theorem isWhole_iff {negative : Bool} {m : Magnitude} :
    m.units % unitsInOne = 0 ↔ ∃ k : Int, (finite negative m).value = k := by
  have hone : (unitsInOne : ℚ) ≠ 0 := unitsInOne_cast_pos.ne'
  constructor
  · intro h
    obtain ⟨q, hq⟩ := Nat.dvd_of_mod_eq_zero h
    cases negative with
    | false => exact ⟨q, by simp [value, units?, hq, hone]⟩
    | true => exact ⟨-q, by simp [value, units?, hq, hone, neg_div]⟩
  · rintro ⟨k, hk⟩
    have habs : m.toRat = k.natAbs := by rw [← abs_value negative, hk, Nat.cast_natAbs, Int.cast_abs]
    rw [toRat, div_eq_iff hone] at habs
    have hunits : m.units = k.natAbs * unitsInOne := by exact_mod_cast habs
    rw [hunits, Nat.mul_mod_left]

end Binary64

/-! ## Numbers -/

namespace Number

/-- The exact value of a finite number. -/
def value : Number → ℚ
  | .int n => n
  | .float x => x.value

theorem place?_of_isFinite {n : Number} (h : n.isFinite = true) :
    ∃ k : Int, n.place? = some (.at k) ∧ n.value = (k : ℚ) / unitsInOne := by
  have hone : (unitsInOne : ℚ) ≠ 0 := unitsInOne_cast_pos.ne'
  cases n with
  | int n =>
    refine ⟨_, rfl, ?_⟩
    simp only [value]
    push_cast
    field_simp
  | float x =>
    cases x with
    | nan | infinity => cases h
    | finite negative m => exact ⟨_, rfl, rfl⟩

theorem lt_iff_value_lt {a b : Number} (ha : a.isFinite = true) (hb : b.isFinite = true) :
    a < b ↔ a.value < b.value := by
  obtain ⟨j, hj, hja⟩ := place?_of_isFinite ha
  obtain ⟨k, hk, hkb⟩ := place?_of_isFinite hb
  rw [lt_iff, hj, hk, hja, hkb, div_lt_div_iff_of_pos_right unitsInOne_cast_pos, Int.cast_lt]
  simp only [Option.some.injEq, exists_eq_left', exists_and_left]
  change Place.lt _ _ = true ↔ _
  simp [Place.lt]

end Number

end FunctionMetrics
