import FunctionMetrics.Number.Basic
import Mathlib.Algebra.Order.Field.Rat
import Mathlib.Tactic.Ring
import Mathlib.Tactic.FieldSimp

/-!
# Exact sums

A whole number of halves below `2 ^ 52` is a floating point number, so sums of halves are exact up to there. Beyond,
a sum is rounded, but adding one never leads past `2 ^ 53`.
-/

namespace FunctionMetrics

namespace Magnitude

/-! ## Rounding to a magnitude -/

theorem units_eq (m : Magnitude) : m.units = m.digits * 2 ^ m.scale := Nat.shiftLeft_eq ..

theorem ofParts?_eq {d s : Nat} (h : d < 9007199254740992 ∧ s ≤ 2045 ∧ (s = 0 ∨ 4503599627370496 ≤ d)) :
    ofParts? d s = some ⟨d, s, h.1, h.2.1, h.2.2⟩ := dif_pos h

def scaleOf (n : Nat) : Nat := n.log2 - 52

theorem lt_pow_scaleOf (n : Nat) : n < 2 ^ (scaleOf n + 53) := by
  apply Nat.lt_of_lt_of_le Nat.lt_log2_self
  apply Nat.pow_le_pow_right (by omega)
  unfold scaleOf; omega

theorem pow_scaleOf_le {n : Nat} (h : scaleOf n ≠ 0) : 2 ^ (scaleOf n + 52) ≤ n := by
  have hn : n ≠ 0 := by rintro rfl; exact h (by simp [scaleOf, Nat.log2_zero])
  have hs : scaleOf n + 52 = n.log2 := by unfold scaleOf at h ⊢; omega
  rw [hs]; exact Nat.log2_self_le hn

theorem scaleOf_le_of_lt {n b : Nat} (h : n < 2 ^ b) (hb : 53 ≤ b) : scaleOf n + 53 ≤ b := by
  by_cases h0 : scaleOf n = 0
  · omega
  · have := Nat.lt_of_le_of_lt (pow_scaleOf_le h0) h
    rw [Nat.pow_lt_pow_iff_right (by omega)] at this
    omega

theorem nearest?_spec (n : Nat) (h : scaleOf n ≤ 2044) :
    ∃ m, nearest? n 1 = some m ∧ m.units = roundHalfEven n (2 ^ scaleOf n) * 2 ^ scaleOf n := by
  have hpos : 0 < 2 ^ scaleOf n := Nat.two_pow_pos _
  have hhigh : n / 2 ^ scaleOf n < 9007199254740992 := by
    rw [Nat.div_lt_iff_lt_mul hpos]
    have := lt_pow_scaleOf n
    rw [Nat.pow_add, Nat.mul_comm] at this
    exact this
  have hlow : scaleOf n = 0 ∨ 4503599627370496 ≤ n / 2 ^ scaleOf n := by
    by_cases h0 : scaleOf n = 0
    · exact .inl h0
    · right
      rw [Nat.le_div_iff_mul_le hpos]
      have := pow_scaleOf_le h0
      rw [Nat.pow_add, Nat.mul_comm] at this
      exact this
  have hle := roundHalfEven_le n (2 ^ scaleOf n)
  have hge := le_roundHalfEven n (2 ^ scaleOf n)
  have hdef : nearest? n 1 =
      if roundHalfEven n (2 ^ scaleOf n) = 9007199254740992 then ofParts? 4503599627370496 (scaleOf n + 1)
      else ofParts? (roundHalfEven n (2 ^ scaleOf n)) (scaleOf n) := by
    simp only [nearest?, Nat.div_one, Nat.one_shiftLeft, scaleOf]
    rfl
  rw [hdef]
  split
  case isTrue heq =>
    -- The digits have grown by one bit, so the scale grows instead.
    refine ⟨_, ofParts?_eq ⟨by decide, by omega, .inr (Nat.le_refl _)⟩, ?_⟩
    rw [units_eq, heq]
    change 4503599627370496 * 2 ^ (scaleOf n + 1) = _
    rw [Nat.pow_succ]
    omega
  case isFalse hne =>
    refine ⟨_, ofParts?_eq ⟨by omega, by omega, ?_⟩, units_eq _⟩
    rcases hlow with h0 | hlow
    · exact .inl h0
    · exact .inr (by omega)

theorem nearest?_exact {d s : Nat} (hd : d < 2 ^ 53) (hs : s ≤ 2044) :
    ∃ m, nearest? (d * 1 <<< s) 1 = some m ∧ m.units = d * 1 <<< s := by
  rw [Nat.one_shiftLeft]
  have hscale : scaleOf (d * 2 ^ s) ≤ s := by
    have hlt : d * 2 ^ s < 2 ^ (s + 53) := by
      rw [Nat.pow_add, Nat.mul_comm (2 ^ s)]
      exact Nat.mul_lt_mul_of_pos_right hd (Nat.two_pow_pos _)
    have := scaleOf_le_of_lt hlt (by omega)
    omega
  obtain ⟨m, hm, hu⟩ := nearest?_spec (d * 2 ^ s) (by omega)
  refine ⟨m, hm, ?_⟩
  obtain ⟨k, hk⟩ : ∃ k, s = k + scaleOf (d * 2 ^ s) := ⟨s - scaleOf (d * 2 ^ s), by omega⟩
  have hsplit : d * 2 ^ s = d * 2 ^ k * 2 ^ scaleOf (d * 2 ^ s) := by
    rw [Nat.mul_assoc, ← Nat.pow_add, ← hk]
  rw [hu]
  generalize scaleOf (d * 2 ^ s) = e at hsplit ⊢
  rw [hsplit, roundHalfEven_mul _ (Nat.two_pow_pos _)]

/-- A step that is small beside a power of two is rounded away. -/
theorem nearest?_le {n e : Nat} (he : e ≤ 2043) (hn : n ≤ 2 ^ 53 * 1 <<< e + 1 <<< e) :
    ∃ m, nearest? n 1 = some m ∧ m.units ≤ 2 ^ 53 * 1 <<< e := by
  rw [Nat.one_shiftLeft] at hn ⊢
  by_cases hlt : n < 2 ^ 53 * 2 ^ e
  · have hscale : scaleOf n + 53 ≤ 53 + e := scaleOf_le_of_lt (by rwa [Nat.pow_add]) (by omega)
    obtain ⟨m, hm, hu⟩ := nearest?_spec n (by omega)
    refine ⟨m, hm, ?_⟩
    have hdiv : n / 2 ^ scaleOf n < 2 ^ 53 := by
      rw [Nat.div_lt_iff_lt_mul (Nat.two_pow_pos _), ← Nat.pow_add, Nat.add_comm]
      exact lt_pow_scaleOf n
    have hround := roundHalfEven_le n (2 ^ scaleOf n)
    rw [hu]
    exact Nat.mul_le_mul (by omega) (Nat.pow_le_pow_right (by omega) (by omega))
  · obtain ⟨r, rfl⟩ : ∃ r, n = 2 ^ 53 * 2 ^ e + r := ⟨n - 2 ^ 53 * 2 ^ e, by omega⟩
    have hpos : 0 < 2 ^ e := Nat.two_pow_pos e
    have hlog : (2 ^ 53 * 2 ^ e + r).log2 = 53 + e := by
      have hlow : 2 ^ (53 + e) = 2 ^ 53 * 2 ^ e := Nat.pow_add ..
      have hhigh : 2 ^ (53 + e + 1) = 2 ^ (53 + e) * 2 := Nat.pow_succ ..
      rw [Nat.log2_eq_iff (by omega)]
      omega
    have hs : scaleOf (2 ^ 53 * 2 ^ e + r) = e + 1 := by rw [scaleOf, hlog]; omega
    obtain ⟨m, hm, hu⟩ := nearest?_spec (2 ^ 53 * 2 ^ e + r) (by rw [hs]; omega)
    rw [hs] at hu
    have hrlt : r < 2 ^ (e + 1) := by rw [Nat.pow_succ]; omega
    have hsplit : 2 ^ 53 * 2 ^ e + r = r + 2 ^ 52 * 2 ^ (e + 1) := by rw [Nat.pow_succ]; omega
    -- At most a half is left over, and the digits are even.
    have hround : roundHalfEven (2 ^ 53 * 2 ^ e + r) (2 ^ (e + 1)) = 2 ^ 52 := by
      unfold roundHalfEven
      rw [hsplit, Nat.add_mul_div_right _ _ (Nat.two_pow_pos _), Nat.div_eq_of_lt hrlt, Nat.add_mul_mod_self_right,
        Nat.mod_eq_of_lt hrlt, Nat.zero_add, if_neg]
      rw [Nat.pow_succ]
      rintro (h | ⟨-, h⟩) <;> omega
    refine ⟨m, hm, ?_⟩
    rw [hu, hround, Nat.pow_succ]
    omega

/-! ## Units -/

def unitsInHalf : Nat := 1 <<< 1073

theorem unitsInOne_eq : unitsInOne = unitsInHalf * 2 := Nat.shiftLeft_succ 1 1073

theorem one_shiftLeft_pos (n : Nat) : 0 < 1 <<< n := by rw [Nat.one_shiftLeft]; exact Nat.two_pow_pos n

theorem unitsInHalf_pos : 0 < unitsInHalf := one_shiftLeft_pos 1073

theorem unitsInOne_pos : 0 < unitsInOne := one_shiftLeft_pos 1074

theorem unitsInOne_cast_pos : (0 : ℚ) < unitsInOne := Nat.cast_pos.mpr unitsInOne_pos

theorem units_ofPower (scale : Nat) (h : scale ≤ 2045) : (ofPower scale h).units = 1 <<< (52 + scale) := by
  rw [units_eq, Nat.one_shiftLeft, Nat.pow_add]; rfl

theorem units_zero : zero.units = 0 := by rw [units_eq]; exact Nat.zero_mul _
theorem units_half : half.units = unitsInHalf := units_ofPower 1021 _
theorem units_one : one.units = unitsInOne := units_ofPower 1022 _

end Magnitude

namespace Binary64

open Magnitude

theorem finite_add_finite (a b : Magnitude) :
    finite false a + finite false b =
      if b.digits = 0 then finite false a else ofSize false (nearest? (a.units + b.units) 1) := by
  change ofSize false (a.add? b) = _
  unfold Magnitude.add?
  split <;> rfl

/-! ## Exact halves -/

def IsHalves (x : Binary64) (n : Nat) : Prop := ∃ m, x = finite false m ∧ m.units = n * unitsInHalf

theorem isHalves_zero : zero.IsHalves 0 := ⟨_, rfl, by rw [units_zero, Nat.zero_mul]⟩
theorem isHalves_half : half.IsHalves 1 := ⟨_, rfl, by rw [units_half, Nat.one_mul]⟩
theorem isHalves_one : one.IsHalves 2 := ⟨_, rfl, by rw [units_one, unitsInOne_eq, Nat.mul_comm]⟩

theorem IsHalves.add {x y : Binary64} {j k : Nat} (hx : x.IsHalves j) (hy : y.IsHalves k)
    (h : j + k < 2 ^ 53) : (x + y).IsHalves (j + k) := by
  obtain ⟨a, rfl, ha⟩ := hx
  obtain ⟨b, rfl, hb⟩ := hy
  rw [finite_add_finite]
  split
  case isTrue h0 =>
    have hb0 : b.units = 0 := by rw [units_eq, h0, Nat.zero_mul]
    have hk : k = 0 := by
      rw [hb0] at hb
      exact (Nat.mul_eq_zero.mp hb.symm).resolve_right (Nat.ne_of_gt unitsInHalf_pos)
    exact ⟨a, rfl, by rw [ha, hk, Nat.add_zero]⟩
  case isFalse =>
    obtain ⟨m, hm, hu⟩ := nearest?_exact (s := 1073) h (by decide)
    refine ⟨m, ?_, hu⟩
    rw [ha, hb, ← Nat.add_mul, unitsInHalf, hm]; rfl

def value (x : Binary64) : ℚ := (x.units?.getD 0 : ℚ) / unitsInOne

theorem IsHalves.value_eq {x : Binary64} {n : Nat} (h : x.IsHalves n) : x.value = n / 2 := by
  obtain ⟨m, rfl, hm⟩ := h
  have hpos : (unitsInHalf : ℚ) ≠ 0 := by exact_mod_cast Nat.ne_of_gt unitsInHalf_pos
  simp only [value, units?, Bool.false_eq_true, if_false, Option.getD_some, hm, unitsInOne_eq]
  push_cast
  field_simp

/-! ## Bounded sums -/

def AtMost (x : Binary64) (n : Nat) : Prop := ∃ m, x = finite false m ∧ m.units ≤ n

theorem AtMost.isFinite {x : Binary64} {n : Nat} (h : x.AtMost n) : x.isFinite = true := by
  obtain ⟨m, rfl, -⟩ := h; rfl

theorem AtMost.mono {x : Binary64} {m n : Nat} (h : x.AtMost m) (hmn : m ≤ n) : x.AtMost n := by
  obtain ⟨a, rfl, ha⟩ := h
  exact ⟨a, rfl, Nat.le_trans ha hmn⟩

theorem atMost_zero : zero.AtMost unitsInOne := ⟨_, rfl, by rw [units_zero]; exact Nat.zero_le _⟩
theorem atMost_half : half.AtMost unitsInOne := ⟨_, rfl, by rw [units_half, unitsInOne_eq]; omega⟩
theorem atMost_one : one.AtMost unitsInOne := ⟨_, rfl, Nat.le_of_eq units_one⟩

/-- A sum with a number up to one stays within `2 ^ 53`. -/
theorem AtMost.add {x y : Binary64} {j k : Nat} (hx : x.AtMost j) (hy : y.AtMost k)
    (hj : j ≤ 2 ^ 53 * unitsInOne) (h : j + k ≤ 2 ^ 53 * unitsInOne + unitsInOne) :
    (x + y).AtMost (2 ^ 53 * unitsInOne) := by
  obtain ⟨a, rfl, ha⟩ := hx
  obtain ⟨b, rfl, hb⟩ := hy
  rw [finite_add_finite]
  split
  case isTrue => exact ⟨a, rfl, Nat.le_trans ha hj⟩
  case isFalse =>
    obtain ⟨m, hm, hu⟩ := nearest?_le (e := 1074) (by decide) (Nat.le_trans (Nat.add_le_add ha hb) h)
    exact ⟨m, by rw [hm]; rfl, hu⟩

end Binary64

end FunctionMetrics
