import FunctionMetrics.Number.Basic

/-! # The order of numbers

Numbers are compared by where they stand on the line, so what holds of places holds of whole and of floating point
numbers alike. -/

namespace FunctionMetrics

namespace Place

theorem lt_trans {p q r : Place} (hpq : p < q) (hqr : q < r) : p < r := by
  change Place.lt _ _ = true at hpq hqr ⊢
  cases p <;> cases q <;> cases r <;> simp_all [lt]
  omega

end Place

namespace Number

theorem lt_iff {a b : Number} : a < b ↔ ∃ p q, a.place? = some p ∧ b.place? = some q ∧ p < q := by
  change below a b = true ↔ _
  unfold below
  split
  · simp_all
  · rename_i h
    constructor
    · simp
    · rintro ⟨p, q, hp, hq, -⟩
      exact absurd hq (h p q hp)

theorem lt_trans {a b c : Number} (hab : a < b) (hbc : b < c) : a < c := by
  obtain ⟨p, q, hp, hq, hpq⟩ := lt_iff.mp hab
  obtain ⟨q', r, hq', hr, hqr⟩ := lt_iff.mp hbc
  obtain rfl : q = q' := Option.some.inj (hq.symm.trans hq')
  exact lt_iff.mpr ⟨p, r, hp, hr, Place.lt_trans hpq hqr⟩

theorem lt_iff_of_same {a b c : Number} (h : a.same b = true) : a < c ↔ b < c := by
  have hplace : a.place? = b.place? := by
    unfold same at h
    split at h
    case h_1 p q hp hq => rw [hp, hq, of_decide_eq_true h]
    case h_2 => cases h
  rw [lt_iff, lt_iff, hplace]

end Number

end FunctionMetrics
