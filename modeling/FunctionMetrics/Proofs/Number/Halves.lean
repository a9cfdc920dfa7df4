import FunctionMetrics.Proofs.Number.Typed

/-!
# Decimals of halves

A number of halves has one digit behind its point at most. Where the others are few enough all its digits are kept when
it is rounded to ten of them, so it is written exactly.
-/

namespace FunctionMetrics

open Json

def halvesText (k : Nat) : String := toString (k / 2) ++ if k % 2 = 0 then "" else ".5"

theorem toList_halvesText (k : Nat) :
    (halvesText k).toList = Nat.toDigits 10 (k / 2) ++ if k % 2 = 0 then [] else ['.', '5'] := by
  unfold halvesText
  rw [Nat.toString_eq_ofList_toDigits, String.toList_append, String.toList_ofList]
  split <;> rfl

theorem toDigits_five_mul {k : Nat} (hodd : k % 2 = 1) (hk : k ≠ 1) :
    Nat.toDigits 10 (5 * k) = Nat.toDigits 10 (k / 2) ++ ['5'] := by
  have hdigits : 5 * k / 10 = k / 2 ∧ 5 * k % 10 = 5 := by omega
  rw [Nat.toDigits_of_base_le (by decide) (by omega), hdigits.1, hdigits.2]
  rfl

namespace Magnitude

variable {m : Magnitude} {k : Nat} (hm : m.units = k * unitsInHalf)

include hm

theorem digits_ne_zero_of_halves (hk : k ≠ 0) : m.digits ≠ 0 := by
  intro hzero
  rw [units_eq, hzero, Nat.zero_mul] at hm
  exact hk ((Nat.mul_eq_zero.mp hm.symm).resolve_right (Nat.ne_of_gt unitsInHalf_pos))

/-! ## Ten digits -/

theorem decimalExponent_of_halves (hk : k ≠ 0) : m.decimalExponent = decimalLength (5 * k) - 2 := by
  have hunits : m.units * 10 ^ 324 / unitsInOne = 5 * k * 10 ^ 323 := by
    have hten : 10 ^ 324 = 10 ^ 323 * 10 := by decide +kernel
    apply Nat.div_eq_of_eq_mul_left unitsInOne_pos
    calc m.units * 10 ^ 324
        = m.units * (10 ^ 323 * 10) := congrArg (m.units * ·) hten
      _ = 5 * k * 10 ^ 323 * unitsInOne := by
        rw [hm, unitsInOne_eq]
        generalize 10 ^ 323 = power
        ring
  rw [decimalExponent, Nat.pow_eq, hunits, decimalLength_mul_pow (by omega)]
  omega

theorem significant_of_halves (hk : k ≠ 0) (hfew : 5 * k < 10 ^ 10) :
    m.significant 10 = ⟨5 * k * 10 ^ (10 - decimalLength (5 * k)), decimalLength (5 * k) - 2⟩ := by
  have hlength : decimalLength (5 * k) ≤ 10 := decimalLength_le_iff.mpr hfew
  obtain ⟨j, hj⟩ : ∃ j, j = 10 - decimalLength (5 * k) := ⟨_, rfl⟩
  have hgrid : m.decimalExponent - (10 : Nat) + 1 = -((j + 1 : Nat) : Int) := by
    rw [decimalExponent_of_halves hm hk]
    omega
  have hsteps : m.inSteps (-((j + 1 : Nat) : Int)) = (5 * k * 10 ^ j * unitsInOne, unitsInOne) := by
    have hup : (- -((j + 1 : Nat) : Int)).toNat = j + 1 := by omega
    have hdown : (-((j + 1 : Nat) : Int)).toNat = 0 := by omega
    rw [inSteps_eq, hup, hdown, hm, unitsInOne_eq, Nat.pow_succ, Prod.mk.injEq]
    constructor <;> ring
  unfold significant
  dsimp only
  rw [hgrid, hsteps, roundHalfEven_mul _ unitsInOne_pos, decimalLength_mul_pow (by omega), ← hj, Significand.mk.injEq]
  exact ⟨rfl, by omega⟩

/-! ## Decimals that are read -/

theorem ofDecimal?_of_halves (hfew : 5 * k < 10 ^ 10) : ofDecimal? (5 * k) (-1) = some m := by
  have hlength : decimalLength (5 * k) ≤ 10 := decimalLength_le_iff.mpr hfew
  by_cases hk : k = 0
  · have hdigits : m.digits = 0 := by
      by_contra hdigits
      have hpos := units_pos hdigits
      rw [hm, hk] at hpos
      omega
    rw [hk, Nat.mul_zero, ofDecimal?_zero, eq_zero_of_digits hdigits]
  · have hten : 5 * k * (10 ^ (-1 : Int).toNat * unitsInOne) = m.units * 10 := by
      rw [hm, unitsInOne_eq]
      change 5 * k * (1 * _) = _
      ring
    rw [ofDecimal?_eq_nearest? (by omega) (by omega) (by omega), hten]
    change nearest? (m.units * 10) (1 * 10) = some m
    rw [nearest?_mul_mul _ _ (by decide), nearest?_units (digits_ne_zero_of_halves hm hk)]

end Magnitude

/-! ## Ten digits at most -/

/-- The digits of five times an odd number are cut where its half has its point. -/
theorem cut_of_halves {ds : String} {k : Nat} (hodd : k % 2 = 1) (hk : k ≠ 1)
    (hds : ds.toList = Nat.toDigits 10 (5 * k)) :
    ds.length = (Nat.toDigits 10 (k / 2)).length + 1 ∧
      (ds.take (Nat.toDigits 10 (k / 2)).length).toString = toString (k / 2) ∧
      (ds.drop (Nat.toDigits 10 (k / 2)).length).toString = "5" := by
  rw [toDigits_five_mul hodd hk] at hds
  refine ⟨?_, ?_, ?_⟩
  case refine_1 =>
    rw [← String.length_toList, hds, List.length_append]
    rfl
  case refine_2 =>
    apply String.toList_inj.mp
    rw [toList_take, hds, List.take_left, Nat.toString_eq_ofList_toDigits, String.toList_ofList]
  case refine_3 =>
    apply String.toList_inj.mp
    rw [toList_drop, hds, List.drop_left]
    rfl

theorem Layout.write_halves {k : Nat} (hodd : k % 2 = 1) (hfew : 5 * k < 10 ^ 10) (j : Nat) :
    Layout.brief.write ⟨5 * k * 10 ^ j, decimalLength (5 * k) - 2⟩ = halvesText k := by
  have hlength : decimalLength (5 * k) ≤ 10 := decimalLength_le_iff.mpr hfew
  have hlong : 0 < decimalLength (5 * k) := lt_decimalLength_iff.mpr (by omega)
  have htext : (digitText (5 * k * 10 ^ j)).toList = Nat.toDigits 10 (5 * k) :=
    toList_digitText_mul_pow (by omega) j
  have hlow : brief.lowest = -4 := rfl
  have hlimit : brief.limit = 10 := rfl
  unfold write
  dsimp only
  generalize digitText (5 * k * 10 ^ j) = ds at *
  rw [if_neg (by omega)]
  by_cases hone : k = 1
  case pos =>
    -- Only a single half is below one.
    subst hone
    obtain rfl : ds = "5" := String.toList_inj.mp htext
    rfl
  case neg =>
    obtain ⟨hsize, hwhole, hfraction⟩ := cut_of_halves hodd hone htext
    have hcount : ds.length = decimalLength (5 * k) := by
      rw [← String.length_toList, htext, length_toDigits (by omega)]
    have hpositive : 0 < (Nat.toDigits 10 (k / 2)).length := Nat.length_toDigits_pos
    have hplaces : ((decimalLength (5 * k) : Int) - 2).toNat + 1 = (Nat.toDigits 10 (k / 2)).length := by omega
    have hnonneg : ¬ ((decimalLength (5 * k) : Int) - 2 < 0) := by omega
    have hnone : (Nat.toDigits 10 (k / 2)).length - ds.length = 0 := by omega
    rw [if_neg hnonneg, hplaces]
    have hpointed : withPoint (toString (k / 2)) "5" = toString (k / 2) ++ ".5" := by
      rw [withPoint, if_neg (by decide), String.append_assoc]
      rfl
    have hsome : ¬ ("5" = "" ∧ brief.pointZero = true) := by decide
    have hzeros : zeros 0 = "" := rfl
    rw [hnone, hwhole, hfraction, if_neg hsome, hzeros, String.append_empty, hpointed, halvesText, if_neg (by omega)]

namespace Binary64

variable {x : Binary64} {k : Nat}

theorem IsHalves.briefText_eq (h : x.IsHalves k) (hodd : k % 2 = 1) (hfew : 5 * k < 10 ^ 10) :
    x.briefText = halvesText k := by
  obtain ⟨m, rfl, hm⟩ := h
  have hdigits : m.digits ≠ 0 := Magnitude.digits_ne_zero_of_halves hm (by omega)
  rw [briefText, textWith, if_neg hdigits, Magnitude.significant_of_halves hm (by omega) hfew,
    Layout.write_halves hodd hfew]
  exact String.empty_append

theorem IsHalves.float?_eq (h : x.IsHalves k) (hfew : 5 * k < 10 ^ 10) : Typed.float? (halvesText k) = some x := by
  obtain ⟨m, rfl, hm⟩ := h
  have hread := Magnitude.ofDecimal?_of_halves hm hfew
  have hdigits := isDigits_toDigits (k / 2)
  have htext := toList_halvesText k
  by_cases heven : k % 2 = 0
  · have hten : 5 * k = k / 2 * 10 ^ 1 := by omega
    rw [hten, Magnitude.ofDecimal?_mul_pow] at hread
    rw [if_pos heven, ← List.append_nil (_ ++ [])] at htext
    rw [Typed.float?_of_spells hdigits .none .none false htext, List.append_nil, digitsOf_toDigits]
    change some (ofSize false (Magnitude.ofDecimal? (k / 2) 0)) = _
    rw [show (0 : Int) = -1 + (1 : Nat) from rfl, hread]
    rfl
  · have hfive : digitsOf (Nat.toDigits 10 (k / 2) ++ ['5']) = 5 * k := by
      rw [digitsOf_append, digitsOf_toDigits]
      change k / 2 * 10 + 5 = 5 * k
      omega
    have hfraction : SpellsFraction ['.', '5'] ['5'] := .some (isDigits_toDigits 5)
    rw [if_neg heven, ← List.append_nil (_ ++ _)] at htext
    rw [Typed.float?_of_spells hdigits hfraction .none false htext, hfive]
    change some (ofSize false (Magnitude.ofDecimal? (5 * k) (-1))) = _
    rw [hread]
    rfl

end Binary64

end FunctionMetrics
