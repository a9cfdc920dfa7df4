import FunctionMetrics.Proofs.Number.Shortest
import FunctionMetrics.Proofs.Number.Value
import Mathlib.Algebra.Order.Field.Power
import Mathlib.Tactic.Linarith
import Mathlib.Tactic.NormNum
import Mathlib.Tactic.Positivity

/-!
# Significant digits

A magnitude is rounded to a number of digits, and that may lead to one more power of ten. It does from half a unit of
the last digit below the power on.
-/

namespace FunctionMetrics

namespace Magnitude

variable {m : Magnitude}

/-! ## Powers of ten -/

theorem zpow_toNat (e : Int) : (10 : ℚ) ^ e = 10 ^ e.toNat / 10 ^ (-e).toNat := by
  rcases Int.le_total 0 e with he | he
  · obtain ⟨n, rfl⟩ := Int.eq_ofNat_of_zero_le he
    simp
  · obtain ⟨n, hn⟩ := Int.eq_ofNat_of_zero_le (show 0 ≤ -e by omega)
    obtain rfl : e = -n := by omega
    simp

theorem zpow_split {e k : Int} {count : Nat} (h : k = count + e) : (10 : ℚ) ^ k = 10 ^ count * 10 ^ e := by
  rw [h, zpow_add₀ (by norm_num), zpow_natCast]

theorem toRat_bounds (h : m.digits ≠ 0) :
    (10 : ℚ) ^ m.decimalExponent ≤ m.toRat ∧ m.toRat < 10 ^ (m.decimalExponent + 1) := by
  obtain ⟨l, hl, -, hlow, hhigh⟩ := decimalExponent_spec h
  have hone := unitsInOne_cast_pos
  have hpow : (0 : ℚ) < 10 ^ 324 := by positivity
  have hten : (10 : ℚ) ≠ 0 := by norm_num
  have hnext : m.decimalExponent + 1 = ((l + 1 : Nat) : Int) - (324 : Nat) := by omega
  have hthis : m.decimalExponent = (l : Int) - (324 : Nat) := by omega
  rw [hnext, hthis, toRat, zpow_sub₀ hten, zpow_sub₀ hten, zpow_natCast, zpow_natCast, zpow_natCast,
    div_le_div_iff₀ hpow hone, div_lt_div_iff₀ hone hpow]
  exact ⟨by exact_mod_cast hlow, by exact_mod_cast hhigh⟩

theorem inSteps_div (m : Magnitude) (e : Int) : ((m.inSteps e).1 : ℚ) / (m.inSteps e).2 = m.toRat / 10 ^ e := by
  have hone := unitsInOne_cast_pos
  rw [inSteps_eq, zpow_toNat, toRat]
  push_cast
  field_simp

theorem inSteps_pos (m : Magnitude) (e : Int) : (0 : ℚ) < (m.inSteps e).2 := by
  have hone := unitsInOne_cast_pos
  rw [inSteps_eq]
  push_cast
  positivity

/-! ## Rounding to digits -/

variable {count : Nat}

theorem carries_iff (h : m.digits ≠ 0) (hcount : 0 < count) {e : Int} (he : e = m.decimalExponent + 1 - count) :
    roundHalfEven (m.inSteps e).1 (m.inSteps e).2 = 10 ^ count ↔
      (10 : ℚ) ^ (m.decimalExponent + 1) - 10 ^ e / 2 ≤ m.toRat := by
  have hden := inSteps_pos m e
  have hstep : (0 : ℚ) < 10 ^ e := by positivity
  have hpow : 0 < 10 ^ count := Nat.pow_pos (by decide)
  have heven : 10 ^ count % 2 = 0 := by
    obtain ⟨k, rfl⟩ : ∃ k, count = k + 1 := ⟨count - 1, by omega⟩
    rw [Nat.pow_succ]
    omega
  have hnext : (10 : ℚ) ^ (m.decimalExponent + 1) = 10 ^ count * 10 ^ e := zpow_split (by omega)
  have hquotient : ((m.inSteps e).1 : ℚ) / (m.inSteps e).2 = m.toRat / 10 ^ e := inSteps_div m e
  have hcast : (((2 * 10 ^ count - 1 : Nat) : ℚ)) = 2 * 10 ^ count - 1 := by
    rw [Nat.cast_sub (by omega)]
    push_cast
    ring
  rw [roundHalfEven_eq_iff_of_even heven hpow (inSteps_bounds h he).2]
  calc (2 * 10 ^ count - 1) * (m.inSteps e).2 ≤ 2 * (m.inSteps e).1
      ↔ (2 * 10 ^ count - 1 : ℚ) * (m.inSteps e).2 ≤ 2 * (m.inSteps e).1 := by
        rw [← hcast]
        norm_cast
    _ ↔ (10 ^ count - 1 / 2 : ℚ) ≤ (m.inSteps e).1 / (m.inSteps e).2 := by
        rw [le_div_iff₀ hden]
        constructor <;> intro hle <;> linarith
    _ ↔ (10 : ℚ) ^ (m.decimalExponent + 1) - 10 ^ e / 2 ≤ m.toRat := by
        rw [hquotient, le_div_iff₀ hstep, hnext]
        constructor <;> intro hle <;> linarith

theorem exponent_significant (h : m.digits ≠ 0) (hcount : 0 < count) :
    (m.significant count).exponent =
      m.decimalExponent +
        if (10 : ℚ) ^ (m.decimalExponent + 1) - 10 ^ (m.decimalExponent + 1 - count) / 2 ≤ m.toRat then 1 else 0 := by
  obtain ⟨e, he⟩ : ∃ e, e = m.decimalExponent + 1 - count := ⟨_, rfl⟩
  obtain ⟨hlow, hhigh⟩ := inSteps_bounds h he
  have hcarries := carries_iff h hcount he
  have hgrid : m.decimalExponent - count + 1 = e := by omega
  rw [← he]
  unfold significant
  dsimp only
  rw [hgrid]
  have hden : 0 < (m.inSteps e).2 := by exact_mod_cast inSteps_pos m e
  have hquotient : (m.inSteps e).1 / (m.inSteps e).2 < 10 ^ count := (Nat.div_lt_iff_lt_mul hden).mpr hhigh
  have hmost := roundHalfEven_le (m.inSteps e).1 (m.inSteps e).2
  have hleast := le_roundHalfEven (m.inSteps e).1 (m.inSteps e).2
  obtain ⟨k, rfl⟩ : ∃ k, count = k + 1 := ⟨count - 1, by omega⟩
  have hdigits : 10 ^ k ≤ (m.inSteps e).1 / (m.inSteps e).2 := by
    rw [Nat.le_div_iff_mul_le hden]
    rw [Nat.pow_succ, Nat.mul_right_comm] at hlow
    omega
  generalize roundHalfEven (m.inSteps e).1 (m.inSteps e).2 = d at *
  split
  case isTrue hreached =>
    have hfull : d = 10 ^ (k + 1) := hcarries.mpr hreached
    have hlength : decimalLength d = k + 2 := by
      rw [hfull, ← Nat.one_mul (10 ^ (k + 1)), decimalLength_mul_pow (by decide)]
      rw [show decimalLength 1 = 1 from rfl]
      omega
    omega
  case isFalse hreached =>
    have hfull : d ≠ 10 ^ (k + 1) := mt hcarries.mp hreached
    have hlong : k < decimalLength d := lt_decimalLength_iff.mpr (by omega)
    have hshort : decimalLength d ≤ k + 1 := decimalLength_le_iff.mpr (by omega)
    omega

/-- **Where a power of ten is reached.** A magnitude that is rounded to digits reaches a power of ten from half a unit
of the last digit below it on. -/
theorem le_exponent_significant_iff (h : m.digits ≠ 0) (hcount : 0 < count) (k : Int) :
    k ≤ (m.significant count).exponent ↔ (10 : ℚ) ^ k - 10 ^ (k - count) / 2 ≤ m.toRat := by
  obtain ⟨hlow, hhigh⟩ := toRat_bounds h
  have hten : (1 : ℚ) < 10 := by norm_num
  rw [exponent_significant h hcount]
  rcases lt_trichotomy k (m.decimalExponent + 1) with hbelow | rfl | habove
  · have hpow : (10 : ℚ) ^ k ≤ 10 ^ m.decimalExponent := zpow_le_zpow_right₀ hten.le (by omega)
    have hlast : (0 : ℚ) < 10 ^ (k - count) := by positivity
    refine iff_of_true ?_ (by linarith)
    split <;> omega
  · split <;> simp_all
  · -- Two powers of ten further on even a half of the last digit does not help.
    have hpow : (10 : ℚ) ^ (m.decimalExponent + 1) ≤ 10 ^ (k - 1) := zpow_le_zpow_right₀ hten.le (by omega)
    have hlast : (10 : ℚ) ^ (k - count) ≤ 10 ^ (k - 1) := zpow_le_zpow_right₀ hten.le (by omega)
    have hnext : (10 : ℚ) ^ k = 10 ^ (k - 1) * 10 := by rw [← zpow_add_one₀ (by norm_num)]; congr 1; omega
    have hpos : (0 : ℚ) < 10 ^ (k - 1) := by positivity
    refine iff_of_false ?_ (by rw [hnext]; linarith)
    split <;> omega

end Magnitude

end FunctionMetrics
