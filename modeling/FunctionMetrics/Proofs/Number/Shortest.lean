import FunctionMetrics.Proofs.Number.Nearest

/-!
# The shortest decimal

Seventeen digits always read back as the magnitude they were taken from, so the search for the shortest ones finds
some, and these read back.
-/

namespace FunctionMetrics

/-! ## Lengths -/

theorem decimalLength_le_iff {n k : Nat} : decimalLength n ≤ k ↔ n < 10 ^ k := by
  unfold decimalLength
  by_cases hn : n = 0
  · simp [hn]
  · rw [if_neg hn]
    rcases Nat.eq_zero_or_pos k with rfl | hk
    · have hpos : 0 < (Nat.toDigits 10 n).length := Nat.length_toDigits_pos
      simp only [Nat.pow_zero]
      omega
    · exact Nat.length_toDigits_le_iff (by decide) hk

theorem lt_decimalLength_iff {n k : Nat} : k < decimalLength n ↔ 10 ^ k ≤ n := by
  rw [← Nat.not_le, decimalLength_le_iff, Nat.not_lt]

theorem decimalLength_mul_pow {n : Nat} (h : n ≠ 0) (k : Nat) : decimalLength (n * 10 ^ k) = decimalLength n + k := by
  have hpos : 0 < 10 ^ k := Nat.pow_pos (by decide)
  apply Nat.le_antisymm
  · rw [decimalLength_le_iff, Nat.pow_add]
    exact Nat.mul_lt_mul_of_pos_right (decimalLength_le_iff.mp (Nat.le_refl _)) hpos
  · obtain ⟨l, hl⟩ : ∃ l, decimalLength n = l + 1 := by
      have : 0 < decimalLength n := lt_decimalLength_iff.mpr (by simp; omega)
      exact ⟨decimalLength n - 1, by omega⟩
    have hlow : 10 ^ l ≤ n := lt_decimalLength_iff.mp (by omega)
    have : l + k < decimalLength (n * 10 ^ k) := by
      rw [lt_decimalLength_iff, Nat.pow_add]
      exact Nat.mul_le_mul_right _ hlow
    omega

namespace Magnitude

/-! ## Decimals of one value -/

theorem ofDecimal?_zero (e : Int) : ofDecimal? 0 e = some zero := by
  unfold ofDecimal?
  rw [if_pos (.inl rfl)]

theorem ofDecimal?_eq_nearest? {d : Nat} {e : Int} (hd : d ≠ 0) (hlow : -330 ≤ decimalLength d + e)
    (hhigh : decimalLength d + e ≤ 310) :
    ofDecimal? d e = nearest? (d * (10 ^ e.toNat * unitsInOne)) (10 ^ (-e).toNat) := by
  unfold ofDecimal?
  dsimp only
  rw [if_neg (by omega), if_neg (by omega)]
  split
  case isTrue he =>
    have hneg : (-e).toNat = 0 := by omega
    rw [hneg, Nat.pow_zero, ← Nat.mul_assoc]; rfl
  case isFalse he =>
    have hpos : e.toNat = 0 := by omega
    rw [hpos, Nat.pow_zero, Nat.one_mul]; rfl

theorem ofDecimal?_mul_pow (d j : Nat) (e : Int) : ofDecimal? (d * 10 ^ j) e = ofDecimal? d (e + j) := by
  by_cases hd : d = 0
  · rw [hd, Nat.zero_mul, ofDecimal?_zero, ofDecimal?_zero]
  have hpow : 0 < 10 ^ j := Nat.pow_pos (by decide)
  have hmul : d * 10 ^ j ≠ 0 := Nat.mul_ne_zero hd (by omega)
  have hlength := decimalLength_mul_pow hd j
  by_cases hrange : -330 ≤ decimalLength d + (e + j) ∧ decimalLength d + (e + j) ≤ 310
  · rw [ofDecimal?_eq_nearest? hmul (by omega) (by omega), ofDecimal?_eq_nearest? hd hrange.1 hrange.2]
    -- Both fractions become the same when each is multiplied by the power of ten of the other.
    have hpowers : j + e.toNat + (-(e + j)).toNat = (e + j).toNat + (-e).toNat := by omega
    rw [← nearest?_mul_mul _ (10 ^ (-e).toNat) (c := 10 ^ (-(e + j)).toNat) (Nat.pow_pos (by decide)),
      ← nearest?_mul_mul _ (10 ^ (-(e + j)).toNat) (c := 10 ^ (-e).toNat) (Nat.pow_pos (by decide)),
      Nat.mul_comm (10 ^ (-e).toNat)]
    congr 1
    calc d * 10 ^ j * (10 ^ e.toNat * unitsInOne) * 10 ^ (-(e + j)).toNat
        = d * unitsInOne * 10 ^ (j + e.toNat + (-(e + j)).toNat) := by rw [Nat.pow_add, Nat.pow_add]; ring
      _ = d * (10 ^ (e + j).toNat * unitsInOne) * 10 ^ (-e).toNat := by rw [hpowers, Nat.pow_add]; ring
  · unfold ofDecimal?
    dsimp only
    by_cases hlow : decimalLength d + (e + j) < -330
    · rw [if_pos (.inr (by omega)), if_pos (.inr hlow)]
    · rw [if_neg (by omega), if_pos (by omega), if_neg (by omega), if_pos (by omega)]

/-! ## The power of ten -/

variable {m : Magnitude}

theorem units_lt (m : Magnitude) : m.units < 2 ^ 1024 * unitsInOne := by
  have hdigits := m.digits_lt
  have hscale := Nat.pow_le_pow_right (show 0 < 2 by decide) m.scale_le
  have hmost := Nat.mul_le_mul_left (2 ^ 53) hscale
  calc m.units = m.digits * 2 ^ m.scale := m.units_eq
    _ < 2 ^ 53 * 2 ^ m.scale := Nat.mul_lt_mul_of_pos_right hdigits (Nat.two_pow_pos _)
    _ ≤ 2 ^ 1024 * unitsInOne := Nat.le_trans hmost (by decide +kernel)

theorem decimalExponent_spec (h : m.digits ≠ 0) :
    ∃ l : Nat, m.decimalExponent = l - 324 ∧ l ≤ 632 ∧ 10 ^ l * unitsInOne ≤ m.units * 10 ^ 324 ∧
      m.units * 10 ^ 324 < 10 ^ (l + 1) * unitsInOne := by
  have hone := unitsInOne_pos
  have hunits := units_pos h
  have hsmall : unitsInOne ≤ 10 ^ 324 := by decide +kernel
  have hquotient : 0 < decimalLength (m.units * 10 ^ 324 / unitsInOne) := by
    rw [lt_decimalLength_iff, Nat.pow_zero, Nat.le_div_iff_mul_le hone, Nat.one_mul]
    exact Nat.le_trans hsmall (Nat.le_mul_of_pos_left _ hunits)
  obtain ⟨l, hl⟩ : ∃ l, decimalLength (m.units * 10 ^ 324 / unitsInOne) = l + 1 :=
    ⟨decimalLength (m.units * 10 ^ 324 / unitsInOne) - 1, by omega⟩
  have hlow : 10 ^ l * unitsInOne ≤ m.units * 10 ^ 324 := by
    rw [← Nat.le_div_iff_mul_le hone, ← lt_decimalLength_iff, hl]
    omega
  have hhigh : m.units * 10 ^ 324 < 10 ^ (l + 1) * unitsInOne := by
    rw [← Nat.div_lt_iff_lt_mul hone, ← decimalLength_le_iff, hl]
  refine ⟨l, ?_, ?_, hlow, hhigh⟩
  · rw [decimalExponent, Nat.pow_eq, hl]
    omega
  · have hlt : 10 ^ l * unitsInOne < 10 ^ 633 * unitsInOne := by
      calc 10 ^ l * unitsInOne ≤ m.units * 10 ^ 324 := hlow
        _ < 2 ^ 1024 * unitsInOne * 10 ^ 324 := Nat.mul_lt_mul_of_pos_right m.units_lt (by decide +kernel)
        _ ≤ 10 ^ 633 * unitsInOne := by decide +kernel
    have := Nat.lt_of_mul_lt_mul_right hlt
    rw [Nat.pow_lt_pow_iff_right (by decide)] at this
    omega

/-! ## Digits that read back -/

theorem inSteps_eq (m : Magnitude) (e : Int) :
    m.inSteps e = (m.units * 10 ^ (-e).toNat, 10 ^ e.toNat * unitsInOne) := by
  unfold inSteps
  split
  case isTrue he =>
    have hneg : (-e).toNat = 0 := by omega
    rw [hneg, Nat.pow_zero, Nat.mul_one]; rfl
  case isFalse he =>
    have hpos : e.toNat = 0 := by omega
    rw [hpos, Nat.pow_zero, Nat.one_mul]; rfl

/-- The steps of its last digit that a magnitude consists of, when it has `count` of them. -/
theorem inSteps_bounds (h : m.digits ≠ 0) {count : Nat} {e : Int} (he : e = m.decimalExponent + 1 - count) :
    10 ^ count * (m.inSteps e).2 ≤ 10 * (m.inSteps e).1 ∧ (m.inSteps e).1 < 10 ^ count * (m.inSteps e).2 := by
  obtain ⟨l, hl, -, hlow, hhigh⟩ := decimalExponent_spec h
  have hpowers : l + 1 + (-e).toNat = e.toNat + count + 324 := by omega
  have hpos : 0 < 10 ^ 324 := by decide +kernel
  rw [inSteps_eq]
  constructor
  · apply Nat.le_of_mul_le_mul_right _ hpos
    calc 10 ^ count * (10 ^ e.toNat * unitsInOne) * 10 ^ 324
        = 10 ^ (e.toNat + count + 324) * unitsInOne := by rw [Nat.pow_add, Nat.pow_add]; ring
      _ = 10 * (10 ^ l * unitsInOne) * 10 ^ (-e).toNat := by rw [← hpowers, Nat.pow_add]; ring
      _ ≤ 10 * (m.units * 10 ^ 324) * 10 ^ (-e).toNat := Nat.mul_le_mul_right _ (Nat.mul_le_mul_left _ hlow)
      _ = 10 * (m.units * 10 ^ (-e).toNat) * 10 ^ 324 := by ring
  · apply Nat.lt_of_mul_lt_mul_right (a := 10 ^ 324)
    calc m.units * 10 ^ (-e).toNat * 10 ^ 324
        = m.units * 10 ^ 324 * 10 ^ (-e).toNat := Nat.mul_right_comm ..
      _ < 10 ^ (l + 1) * unitsInOne * 10 ^ (-e).toNat := Nat.mul_lt_mul_of_pos_right hhigh (Nat.pow_pos (by decide))
      _ = 10 ^ (l + 1 + (-e).toNat) * unitsInOne := by rw [Nat.pow_add]; ring
      _ = 10 ^ count * (10 ^ e.toNat * unitsInOne) * 10 ^ 324 := by
        rw [hpowers, Nat.pow_add, Nat.pow_add]; ring

theorem ofDecimal?_seventeen (h : m.digits ≠ 0) {e : Int} (he : e = m.decimalExponent - 16) :
    ofDecimal? (roundHalfEven (m.inSteps e).1 (m.inSteps e).2) e = some m := by
  obtain ⟨hlow', hhigh⟩ := @inSteps_bounds m h 17 e (by omega)
  obtain ⟨l, hl, hmost, -, -⟩ := decimalExponent_spec h
  have hlow : 10 ^ 16 * (m.inSteps e).2 ≤ (m.inSteps e).1 := by omega
  have hden : 0 < (m.inSteps e).2 := by omega
  obtain ⟨hnear, hnear'⟩ := roundHalfEven_near (m.inSteps e).1 hden
  have hfew : 10 ^ 16 ≤ roundHalfEven (m.inSteps e).1 (m.inSteps e).2 := by
    apply Nat.le_trans _ (le_roundHalfEven ..)
    rwa [Nat.le_div_iff_mul_le hden]
  have hmany : roundHalfEven (m.inSteps e).1 (m.inSteps e).2 < 10 ^ 18 := by
    have hquotient : (m.inSteps e).1 / (m.inSteps e).2 < 10 ^ 17 := by rwa [Nat.div_lt_iff_lt_mul hden]
    have := roundHalfEven_le (m.inSteps e).1 (m.inSteps e).2
    omega
  rw [inSteps_eq] at *
  dsimp only at *
  generalize roundHalfEven (m.units * 10 ^ (-e).toNat) (10 ^ e.toNat * unitsInOne) = d at *
  have hleast := lt_decimalLength_iff.mpr hfew
  have hlength := decimalLength_le_iff.mpr hmany
  rw [ofDecimal?_eq_nearest? (by omega) (by omega) (by omega)]
  apply nearest?_of_close <;> omega

/-- A decimal is taken only if it reads back, and one of the two neighbours is taken if the nearest one does. -/
theorem shortAt?_spec {count : Nat} {found : Option Significand} (h : m.shortAt? count = found) {e : Int}
    (he : m.decimalExponent - count + 1 = e) :
    (∀ s, found = some s → ∃ d, s = ⟨d, e + decimalLength d - 1⟩ ∧ ofDecimal? d e = some m) ∧
      (ofDecimal? (roundHalfEven (m.inSteps e).1 (m.inSteps e).2) e = some m → found.isSome = true) := by
  unfold shortAt? at h
  rw [he] at h
  extract_lets grid steps reads low near far keep at h
  subst h
  have hreads : ∀ d, reads d = true ↔ ofDecimal? d e = some m := fun d => decide_eq_true_iff
  have hkeep : ∀ d, keep d = ⟨d, e + decimalLength d - 1⟩ := fun d => rfl
  constructor
  · intro s hs
    by_cases hnear : reads near = true
    · rw [if_pos hnear] at hs
      exact ⟨near, (Option.some.inj hs).symm.trans (hkeep near), (hreads near).mp hnear⟩
    · rw [if_neg hnear] at hs
      by_cases hfar : reads far = true
      · rw [if_pos hfar] at hs
        exact ⟨far, (Option.some.inj hs).symm.trans (hkeep far), (hreads far).mp hfar⟩
      · rw [if_neg hfar] at hs
        cases hs
  · intro hnear
    rw [if_pos ((hreads near).mpr hnear)]
    rfl

theorem shortest_spec (h : m.digits ≠ 0) :
    ∃ d e, m.shortest = ⟨d, e + decimalLength d - 1⟩ ∧ ofDecimal? d e = some m := by
  have hseventeen : (m.shortAt? 17).isSome = true :=
    (shortAt?_spec rfl (by omega)).2 (ofDecimal?_seventeen h rfl)
  have hfound : ((List.range 17).findSome? fun i => m.shortAt? (i + 1)).isSome = true := by
    rw [List.isSome_findSome?, List.any_eq_true]
    exact ⟨16, by simp, hseventeen⟩
  obtain ⟨s, hs⟩ := Option.isSome_iff_exists.mp hfound
  obtain ⟨i, -, hi⟩ := List.exists_of_findSome?_eq_some hs
  obtain ⟨d, rfl, hreads⟩ := (shortAt?_spec hi rfl).1 s rfl
  exact ⟨d, _, by rw [shortest, hs]; rfl, hreads⟩

end Magnitude

end FunctionMetrics
