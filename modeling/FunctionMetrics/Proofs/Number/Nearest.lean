import FunctionMetrics.Proofs.Number.Exact

/-!
# The nearest magnitude

A quotient close to a magnitude is rounded to it: its distance may be up to one part in `2 ^ 54`. A quotient is rounded
by its value, whatever the fraction.
-/

namespace FunctionMetrics

/-! ## Rounding -/

theorem roundHalfEven_near (num : Nat) {den : Nat} (h : 0 < den) :
    2 * num ≤ 2 * (roundHalfEven num den * den) + den ∧ 2 * (roundHalfEven num den * den) ≤ 2 * num + den := by
  have hsplit := Nat.div_add_mod num den
  have hrest := Nat.mod_lt num h
  unfold roundHalfEven
  dsimp only
  generalize num / den = whole at hsplit ⊢
  rw [Nat.mul_comm] at hsplit
  split
  · rw [Nat.add_one_mul whole den]
    omega
  · omega

theorem roundHalfEven_eq {num den n : Nat} (hlow : 2 * (n * den) < 2 * num + den) (hhigh : 2 * num < 2 * (n * den) + den) :
    roundHalfEven num den = n := by
  obtain ⟨hnear, hnear'⟩ := @roundHalfEven_near num den (by omega)
  generalize roundHalfEven num den = k at hnear hnear'
  rcases Nat.lt_trichotomy k n with hlt | heq | hgt
  · have := Nat.mul_le_mul_right den hlt
    rw [Nat.succ_mul] at this
    omega
  · exact heq
  · have := Nat.mul_le_mul_right den hgt
    rw [Nat.succ_mul] at this
    omega

/-- An even number is reached from half a unit below it on, the half included. -/
theorem roundHalfEven_eq_iff_of_even {num den n : Nat} (hn : n % 2 = 0) (hpos : 0 < n) (h : num < n * den) :
    roundHalfEven num den = n ↔ (2 * n - 1) * den ≤ 2 * num := by
  obtain ⟨k, rfl⟩ : ∃ k, n = k + 1 := ⟨n - 1, by omega⟩
  have hden : 0 < den := Nat.pos_of_mul_pos_left (Nat.lt_of_le_of_lt (Nat.zero_le _) h)
  have hsplit := Nat.div_add_mod num den
  have hrest := Nat.mod_lt num hden
  have hwhole : num / den < k + 1 := (Nat.div_lt_iff_lt_mul hden).mpr h
  have hbound : (2 * (k + 1) - 1) * den = 2 * (k * den) + den := by
    rw [show 2 * (k + 1) - 1 = 2 * k + 1 by omega]
    ring
  rw [hbound]
  unfold roundHalfEven
  dsimp only
  generalize num / den = whole at *
  generalize num % den = rest at *
  rw [Nat.mul_comm] at hsplit
  rcases Nat.lt_or_ge whole k with hlt | hge
  · have hmul : (whole + 1) * den ≤ k * den := Nat.mul_le_mul_right den hlt
    rw [Nat.add_one_mul] at hmul
    constructor
    · intro heq
      split at heq <;> omega
    · omega
  · obtain rfl : whole = k := by omega
    -- Below an even number stands an odd one, so a half leads on to the even one.
    rw [ite_eq_left_iff]
    omega

theorem roundHalfEven_mul_mul (num den : Nat) {c : Nat} (h : 0 < c) :
    roundHalfEven (num * c) (den * c) = roundHalfEven num den := by
  have hmore : den * c < 2 * (num % den * c) ↔ den < 2 * (num % den) := by
    rw [← Nat.mul_assoc, Nat.mul_lt_mul_right h]
  have hhalf : 2 * (num % den * c) = den * c ↔ 2 * (num % den) = den := by
    rw [← Nat.mul_assoc, Nat.mul_left_inj (by omega)]
  unfold roundHalfEven
  simp only [Nat.mul_div_mul_right _ _ h, Nat.mul_mod_mul_right, hmore, hhalf]

namespace Magnitude

theorem nearest?_mul_mul (num den : Nat) {c : Nat} (h : 0 < c) : nearest? (num * c) (den * c) = nearest? num den := by
  unfold nearest?
  simp only [Nat.mul_div_mul_right _ _ h, Nat.shiftLeft_eq, Nat.mul_right_comm den c, roundHalfEven_mul_mul _ _ h]

/-! ## Close quotients -/

theorem scaleOf_eq {n e : Nat} (hlow : e = 0 ∨ 2 ^ (e + 52) ≤ n) (hhigh : n < 2 ^ (e + 53)) : scaleOf n = e := by
  have hle := scaleOf_le_of_lt hhigh (by omega)
  rcases hlow with rfl | hlow
  · omega
  · have hlog : n.log2 = e + 52 := by
      have hpos := Nat.two_pow_pos (e + 52)
      rw [Nat.log2_eq_iff (by omega)]
      exact ⟨hlow, hhigh⟩
    rw [scaleOf, hlog]
    omega

theorem nearest?_eq {num den e : Nat} (h : scaleOf (num / den) = e) :
    nearest? num den =
      if roundHalfEven num (2 ^ e * den) = 9007199254740992 then ofParts? 4503599627370496 (e + 1)
      else ofParts? (roundHalfEven num (2 ^ e * den)) e := by
  change nearest? num den =
    if roundHalfEven num (2 ^ e * den) = 2 ^ 53 then ofParts? 4503599627370496 (e + 1) else _
  unfold nearest?
  rw [scaleOf] at h
  simp only [h, Nat.shiftLeft_eq, Nat.mul_comm den]
  rfl

theorem ofParts?_self (m : Magnitude) : ofParts? m.digits m.scale = some m := ofParts?_eq ⟨m.digits_lt, m.scale_le, m.normal⟩

theorem nearest?_of_close {m : Magnitude} {num den : Nat}
    (hlow : 2 ^ 54 * (m.units * den) < 2 ^ 54 * num + m.units * den)
    (hhigh : 2 ^ 54 * num < 2 ^ 54 * (m.units * den) + m.units * den) : nearest? num den = some m := by
  have hden : 0 < den := by
    rcases Nat.eq_zero_or_pos den with rfl | h
    · omega
    · exact h
  have hdigits := m.digits_lt
  have hunits : m.units * den = m.digits * (2 ^ m.scale * den) := by rw [units_eq, Nat.mul_assoc]
  rw [hunits] at hlow hhigh
  by_cases hstep : m.digits = 4503599627370496 ∧ m.scale ≠ 0 ∧ num < m.digits * (2 ^ m.scale * den)
  case pos =>
    -- Below the first magnitude of a scale the next ones are those of the scale before it.
    obtain ⟨hfirst, hscale, hbelow⟩ := hstep
    obtain ⟨e, he⟩ := Nat.exists_eq_succ_of_ne_zero hscale
    have hdouble : 2 ^ m.scale * den = 2 * (2 ^ e * den) := by rw [he, Nat.pow_succ, Nat.mul_comm _ 2, Nat.mul_assoc]
    rw [hfirst, hdouble] at hlow hbelow
    have hquotient : scaleOf (num / den) = e := by
      apply scaleOf_eq
      · right
        rw [Nat.le_div_iff_mul_le hden, Nat.pow_add, Nat.mul_right_comm]
        omega
      · rw [Nat.div_lt_iff_lt_mul hden, Nat.pow_add, Nat.mul_right_comm]
        omega
    have hround : roundHalfEven num (2 ^ e * den) = 9007199254740992 := roundHalfEven_eq (by omega) (by omega)
    rw [nearest?_eq hquotient, if_pos hround, ← ofParts?_self m, hfirst, he]
  case neg =>
    have hup : m.digits * (2 ^ m.scale * den) ≤ 9007199254740991 * (2 ^ m.scale * den) :=
      Nat.mul_le_mul_right _ (by omega)
    have hpos : 0 < 2 ^ m.scale * den := Nat.mul_pos (Nat.two_pow_pos _) hden
    have hquotient : scaleOf (num / den) = m.scale := by
      apply scaleOf_eq
      · by_cases hscale : m.scale = 0
        · exact .inl hscale
        · right
          have hnormal := m.normal.resolve_left hscale
          rw [Nat.le_div_iff_mul_le hden, Nat.pow_add, Nat.mul_right_comm]
          by_cases hfirst : m.digits = 4503599627370496
          · rw [hfirst] at hlow hstep
            have habove : ¬ num < 4503599627370496 * (2 ^ m.scale * den) := fun h => hstep ⟨rfl, hscale, h⟩
            omega
          · have hdown : 4503599627370497 * (2 ^ m.scale * den) ≤ m.digits * (2 ^ m.scale * den) :=
              Nat.mul_le_mul_right _ (by omega)
            omega
      · rw [Nat.div_lt_iff_lt_mul hden, Nat.pow_add, Nat.mul_right_comm]
        omega
    have hround : roundHalfEven num (2 ^ m.scale * den) = m.digits := roundHalfEven_eq (by omega) (by omega)
    rw [nearest?_eq hquotient, hround, if_neg (by omega), ofParts?_self]

/-! ## One magnitude for a size -/

theorem eq_zero_of_digits {m : Magnitude} (h : m.digits = 0) : m = .zero := by
  obtain ⟨digits, scale, hdigits, hscale, hnormal⟩ := m
  obtain rfl : digits = 0 := h
  obtain rfl : scale = 0 := by omega
  rfl

theorem units_pos {m : Magnitude} (h : m.digits ≠ 0) : 0 < m.units := by
  rw [units_eq]
  exact Nat.mul_pos (by omega) (Nat.two_pow_pos _)

theorem nearest?_units {m : Magnitude} (h : m.digits ≠ 0) : nearest? m.units 1 = some m := by
  have hpos := units_pos h
  apply nearest?_of_close <;> omega

theorem eq_of_units_eq {a b : Magnitude} (h : a.units = b.units) : a = b := by
  by_cases ha : a.digits = 0
  · have hb : b.digits = 0 := by
      by_contra hb
      have hpos := units_pos hb
      rw [← h, units_eq, ha] at hpos
      omega
    rw [eq_zero_of_digits ha, eq_zero_of_digits hb]
  · have hb : b.digits ≠ 0 := by
      intro hb
      have hpos := units_pos ha
      rw [h, units_eq, hb] at hpos
      omega
    have hnearest := nearest?_units hb
    rw [← h, nearest?_units ha] at hnearest
    exact Option.some.inj hnearest

end Magnitude

theorem Binary64.IsHalves.unique {x y : Binary64} {n : Nat} (hx : x.IsHalves n) (hy : y.IsHalves n) : x = y := by
  obtain ⟨a, rfl, ha⟩ := hx
  obtain ⟨b, rfl, hb⟩ := hy
  rw [Magnitude.eq_of_units_eq (ha.trans hb.symm)]

end FunctionMetrics
