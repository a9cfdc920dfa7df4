import FunctionMetrics.Proofs.Number.Nearest

/-!
# Limits of numbers

A whole number has a floating point neighbour up to half a step beyond the largest one, and digits up to a number of
them.
-/

namespace FunctionMetrics

namespace Magnitude

/-! ## The largest magnitude -/

theorem ofParts?_of_scale {d s : Nat} (h : 2045 < s) : ofParts? d s = none := by
  unfold ofParts?
  rw [dif_neg]
  rintro ⟨-, hs, -⟩
  omega

/-- The digits below a power of two are odd, so a half leads on to it. -/
theorem roundHalfEven_eq_iff {n d : Nat} (hn : n < 2 ^ 53 * (2 * d)) :
    roundHalfEven n (2 * d) = 9007199254740992 ↔ (2 ^ 54 - 1) * d ≤ n := by
  have heven : roundHalfEven n (2 * d) = 2 ^ 53 ↔ (2 * 2 ^ 53 - 1) * (2 * d) ≤ 2 * n :=
    roundHalfEven_eq_iff_of_even (by decide) (by decide) hn
  exact heven.trans (by omega)

theorem nearest?_isSome_of_last {n e : Nat} (he : e = 2044) (hscale : scaleOf n = e + 1) :
    (nearest? n 1).isSome = true ↔ n < (2 ^ 54 - 1) * 2 ^ e := by
  have hdouble : 2 ^ (e + 1) = 2 * 2 ^ e := by rw [Nat.pow_succ, Nat.mul_comm]
  have hpos : 0 < 2 ^ e := Nat.two_pow_pos e
  have hlow : 2 ^ (e + 1 + 52) ≤ n := hscale ▸ pow_scaleOf_le (by omega)
  have hhigh : n < 2 ^ (e + 1 + 53) := hscale ▸ lt_pow_scaleOf n
  rw [Nat.pow_add, hdouble] at hlow hhigh
  have hgrows : roundHalfEven n (2 * 2 ^ e) = 9007199254740992 ↔ (2 ^ 54 - 1) * 2 ^ e ≤ n :=
    roundHalfEven_eq_iff (by omega)
  rw [nearest?_eq (e := e + 1) (by rwa [Nat.div_one]), Nat.mul_one, hdouble]
  by_cases h : (2 ^ 54 - 1) * 2 ^ e ≤ n
  · rw [if_pos (hgrows.mpr h), ofParts?_of_scale (by omega)]
    simp only [Option.isSome_none, Bool.false_eq_true, false_iff]
    omega
  · have hround := mt hgrows.mp h
    have hle := roundHalfEven_le n (2 * 2 ^ e)
    have hge := le_roundHalfEven n (2 * 2 ^ e)
    have hfew : n / (2 * 2 ^ e) < 2 ^ 53 := (Nat.div_lt_iff_lt_mul (by omega)).mpr (by omega)
    have hmany : 2 ^ 52 ≤ n / (2 * 2 ^ e) := (Nat.le_div_iff_mul_le (by omega)).mpr (by omega)
    rw [if_neg hround, ofParts?_eq ⟨by omega, by omega, .inr (by omega)⟩]
    simp only [Option.isSome_some, true_iff]
    omega

theorem nearest?_isSome_iff {n e : Nat} (he : e = 2044) :
    (nearest? n 1).isSome = true ↔ n < (2 ^ 54 - 1) * 2 ^ e := by
  rcases Nat.lt_trichotomy (scaleOf n) (e + 1) with hbelow | hlast | habove
  · obtain ⟨m, hm, -⟩ := nearest?_spec n (by omega)
    have hpow : 2 ^ (scaleOf n + 53) ≤ 2 ^ (e + 53) := Nat.pow_le_pow_right (by decide) (by omega)
    have hlt := lt_pow_scaleOf n
    rw [Nat.pow_add 2 e 53] at hpow
    simp only [hm, Option.isSome_some, true_iff]
    omega
  · exact nearest?_isSome_of_last he hlast
  · have hpow : 2 ^ (e + 54) ≤ 2 ^ (scaleOf n + 52) := Nat.pow_le_pow_right (by decide) (by omega)
    have hlow := pow_scaleOf_le (n := n) (by omega)
    rw [nearest?_eq (by rw [Nat.div_one]), ofParts?_of_scale (by omega), ofParts?_of_scale (by omega), ite_self]
    rw [Nat.pow_add] at hpow
    simp only [Option.isSome_none, Bool.false_eq_true, false_iff]
    omega

end Magnitude

/-- The first whole number that has no floating point neighbour any more. -/
def Binary64.overflow : Nat := 2 ^ 1024 - 2 ^ 970

theorem Binary64.ofInt?_isSome_iff {n : Int} : (ofInt? n).isSome = true ↔ n.natAbs < overflow := by
  have hone : (2 ^ 54 - 1) * 2 ^ 2044 = overflow * Magnitude.unitsInOne := by decide +kernel
  have hpos : 0 < Magnitude.unitsInOne := by decide +kernel
  rw [ofInt?, Option.isSome_map, Magnitude.nearest?_isSome_iff rfl, hone, Nat.mul_lt_mul_right hpos]

theorem Binary64.ofInt?_isSome_of_lt {n : Int} (h : n.natAbs < 2 ^ 53) : (ofInt? n).isSome = true := by
  have hoverflow : 2 ^ 53 ≤ overflow := by decide +kernel
  exact ofInt?_isSome_iff.mpr (Nat.lt_of_lt_of_le h hoverflow)

namespace Number

/-! ## Digits -/

theorem digits?_isSome_iff {n : Int} : (digits? n).isSome = true ↔ n.natAbs < 10 ^ maxDigits := by
  have hlength : (toString n.natAbs).length ≤ maxDigits ↔ n.natAbs < 10 ^ maxDigits :=
    Nat.length_repr_le_iff (by decide)
  rw [← hlength]
  unfold digits?
  split <;> simp_all

theorem digits?_eq {n : Int} (h : (digits? n).isSome = true) : digits? n = some (toString n) := by
  have htext : (if n < 0 then "-" ++ toString n.natAbs else toString n.natAbs) = toString n := by
    cases n with
    | ofNat n => rfl
    | negSucc n => exact if_pos (Int.negSucc_lt_zero n)
  by_cases hlength : maxDigits < (toString n.natAbs).length
  · have hnone : digits? n = none := if_pos hlength
    rw [hnone] at h; cases h
  · rw [← htext]
    exact if_neg hlength

theorem digits?_of_lt {n : Int} (hlow : 0 ≤ n) (hhigh : n < 10 ^ 20) : (digits? n).isSome = true := by
  have hpow : 10 ^ 20 ≤ 10 ^ maxDigits := Nat.pow_le_pow_right (by decide) (by decide)
  rw [digits?_isSome_iff]
  exact Nat.lt_of_lt_of_le (by omega) hpow

end Number

end FunctionMetrics
