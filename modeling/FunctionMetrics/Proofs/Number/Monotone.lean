import FunctionMetrics.Proofs.Number.Limits
import FunctionMetrics.Proofs.Number.Value

/-!
# Rounding keeps the order

A larger number of units is never rounded to a smaller magnitude. So no sum gets smaller when something is added to it,
and of two sums the larger one stays so when the same is added to both.
-/

namespace FunctionMetrics

theorem roundHalfEven_mono (den : Nat) {a b : Nat} (h : a ≤ b) : roundHalfEven a den ≤ roundHalfEven b den := by
  have hwhole : a / den ≤ b / den := Nat.div_le_div_right h
  rcases Nat.lt_or_eq_of_le hwhole with hlt | heq
  · calc roundHalfEven a den ≤ a / den + 1 := roundHalfEven_le a den
      _ ≤ b / den := hlt
      _ ≤ roundHalfEven b den := le_roundHalfEven b den
  · have hrest : a % den ≤ b % den := by
      have ha := Nat.div_add_mod a den
      have hb := Nat.div_add_mod b den
      rw [heq] at ha
      omega
    unfold roundHalfEven
    rw [heq]
    dsimp only
    split <;> split <;> omega

namespace Magnitude

variable {m a b : Magnitude} {n k : Nat}

/-! ## Units of the nearest one -/

theorem scaleOf_mono (h : n ≤ k) : scaleOf n ≤ scaleOf k := by
  by_cases hzero : scaleOf n = 0
  · omega
  · have hpow : 2 ^ (scaleOf n + 52) < 2 ^ (scaleOf k + 53) :=
      calc 2 ^ (scaleOf n + 52) ≤ n := pow_scaleOf_le hzero
        _ ≤ k := h
        _ < 2 ^ (scaleOf k + 53) := lt_pow_scaleOf k
    rw [Nat.pow_lt_pow_iff_right (by decide)] at hpow
    omega

theorem units_of_ofParts? {d s : Nat} (h : ofParts? d s = some m) : m.units = d * 2 ^ s := by
  unfold ofParts? at h
  split at h
  · cases h
    exact units_eq _
  · cases h

theorem units_of_nearest? (h : nearest? n 1 = some m) :
    m.units = roundHalfEven n (2 ^ scaleOf n) * 2 ^ scaleOf n := by
  rw [nearest?_eq (e := scaleOf n) (by rw [Nat.div_one]), Nat.mul_one] at h
  split at h
  case isTrue hfull =>
    rw [units_of_ofParts? h, hfull, Nat.pow_succ]
    omega
  case isFalse => exact units_of_ofParts? h

/-- At one scale the digits keep the order; below it all magnitudes are at most the first one of the scale. -/
theorem nearest?_mono (h : n ≤ k) (ha : nearest? n 1 = some a) (hb : nearest? k 1 = some b) : a.units ≤ b.units := by
  rw [units_of_nearest? ha, units_of_nearest? hb]
  rcases Nat.lt_or_eq_of_le (scaleOf_mono h) with hlt | heq
  · have hdigits : roundHalfEven n (2 ^ scaleOf n) ≤ 2 ^ 53 := by
      have hwhole : n / 2 ^ scaleOf n < 2 ^ 53 := by
        rw [Nat.div_lt_iff_lt_mul (Nat.two_pow_pos _), ← Nat.pow_add, Nat.add_comm]
        exact lt_pow_scaleOf n
      have hround := roundHalfEven_le n (2 ^ scaleOf n)
      omega
    have hnormal : 2 ^ 52 ≤ roundHalfEven k (2 ^ scaleOf k) := by
      apply Nat.le_trans _ (le_roundHalfEven _ _)
      rw [Nat.le_div_iff_mul_le (Nat.two_pow_pos _), ← Nat.pow_add, Nat.add_comm]
      exact pow_scaleOf_le (by omega)
    calc roundHalfEven n (2 ^ scaleOf n) * 2 ^ scaleOf n
        ≤ 2 ^ 53 * 2 ^ scaleOf n := Nat.mul_le_mul_right _ hdigits
      _ = 2 ^ 52 * 2 ^ (scaleOf n + 1) := by rw [Nat.pow_succ 2 (scaleOf n)]; omega
      _ ≤ 2 ^ 52 * 2 ^ scaleOf k := Nat.mul_le_mul_left _ (Nat.pow_le_pow_right (by decide) hlt)
      _ ≤ roundHalfEven k (2 ^ scaleOf k) * 2 ^ scaleOf k := Nat.mul_le_mul_right _ hnormal
  · rw [heq]
    exact Nat.mul_le_mul_right _ (roundHalfEven_mono _ h)

theorem nearest?_isSome_of_le (h : n ≤ k) (hk : (nearest? k 1).isSome = true) : (nearest? n 1).isSome = true := by
  rw [nearest?_isSome_iff rfl] at hk ⊢
  exact Nat.lt_of_le_of_lt h hk

theorem nearest?_units_self (m : Magnitude) : nearest? m.units 1 = some m := by
  by_cases h : m.digits = 0
  · rw [eq_zero_of_digits h]
    rfl
  · exact nearest?_units h

end Magnitude

namespace Binary64

open Magnitude

variable {x y z w : Binary64} {n : Nat}

/-! ## Sums in order -/

def NotAbove (x y : Binary64) : Prop := ∃ a b, x = finite false a ∧ y = finite false b ∧ a.units ≤ b.units

theorem AtMost.notAbove_self (h : x.AtMost n) : x.NotAbove x := by
  obtain ⟨a, rfl, -⟩ := h
  exact ⟨a, a, rfl, rfl, Nat.le_refl _⟩

theorem AtMost.zero_notAbove (h : x.AtMost n) : zero.NotAbove x := by
  obtain ⟨a, rfl, -⟩ := h
  exact ⟨.zero, a, rfl, rfl, by rw [units_zero]; exact Nat.zero_le _⟩

theorem NotAbove.trans (hxy : x.NotAbove y) (hyz : y.NotAbove z) : x.NotAbove z := by
  obtain ⟨a, b, rfl, rfl, hab⟩ := hxy
  obtain ⟨b', c, hb, rfl, hbc⟩ := hyz
  cases hb
  exact ⟨a, c, rfl, rfl, Nat.le_trans hab hbc⟩

theorem NotAbove.value_le (h : x.NotAbove y) : x.value ≤ y.value := by
  obtain ⟨a, b, rfl, rfl, hab⟩ := h
  change ((a.units : Int) : ℚ) / unitsInOne ≤ ((b.units : Int) : ℚ) / unitsInOne
  rw [div_le_div_iff_of_pos_right unitsInOne_cast_pos]
  exact_mod_cast hab

/-- A magnitude is the nearest one to itself, so adding nothing is no case of its own. -/
theorem add_eq_nearest (a b : Magnitude) :
    finite false a + finite false b = ofSize false (nearest? (a.units + b.units) 1) := by
  rw [finite_add_finite]
  split
  case isTrue hb =>
    rw [units_eq b, hb, Nat.zero_mul, Nat.add_zero, nearest?_units_self]
    rfl
  case isFalse => rfl

theorem NotAbove.add (hxy : x.NotAbove y) (hzw : z.NotAbove w) (hfinite : (y + w).isFinite = true) :
    (x + z).NotAbove (y + w) := by
  obtain ⟨a, b, rfl, rfl, hab⟩ := hxy
  obtain ⟨c, d, rfl, rfl, hcd⟩ := hzw
  have hle : a.units + c.units ≤ b.units + d.units := Nat.add_le_add hab hcd
  rw [add_eq_nearest] at hfinite
  rw [add_eq_nearest, add_eq_nearest]
  cases hk : nearest? (b.units + d.units) 1 with
  | none =>
    rw [hk] at hfinite
    cases hfinite
  | some k =>
    obtain ⟨n, hn⟩ := Option.isSome_iff_exists.mp (nearest?_isSome_of_le hle (by rw [hk]; rfl))
    rw [hn]
    exact ⟨n, k, rfl, rfl, nearest?_mono hle hn hk⟩

theorem AtMost.notAbove_add (hx : x.AtMost n) (hz : zero.NotAbove z) (hfinite : (x + z).isFinite = true) :
    x.NotAbove (x + z) := by
  have hzero : x + zero = x := by
    obtain ⟨a, rfl, -⟩ := hx
    rfl
  have hsum := hx.notAbove_self.add hz hfinite
  rwa [hzero] at hsum

end Binary64

/-! ## Limits below a sum -/

theorem Place.lt_at_of_le {p : Place} {i j : Int} (h : p < .at i) (hij : i ≤ j) : p < .at j := by
  change Place.lt _ _ = true at h ⊢
  cases p with
  | bottom => rfl
  | «at» k => simp only [lt, decide_eq_true_eq] at h ⊢; omega
  | top => cases h

theorem Number.lt_of_notAbove {x y : Binary64} {low : Number} (h : x.NotAbove y) (hlow : low < .float x) :
    low < .float y := by
  obtain ⟨a, b, rfl, rfl, hab⟩ := h
  obtain ⟨p, q, hp, hq, hpq⟩ := lt_iff.mp hlow
  obtain rfl : q = .at a.units := (Option.some.inj hq).symm
  exact lt_iff.mpr ⟨p, .at b.units, hp, rfl, Place.lt_at_of_le hpq (by omega)⟩

end FunctionMetrics
