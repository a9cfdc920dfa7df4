import FunctionMetrics.Proofs.Analysis.Nesting
import FunctionMetrics.Proofs.Number.Value

/-!
# Higher thresholds

Thresholds have a say in severities and in nothing else of a report. Where they are raised no severity goes up, and no
unit is listed that was not listed before.
-/

namespace FunctionMetrics

/-! ## Raised thresholds -/

theorem Place.at_lt_of_le {p : Place} {i j : Int} (hij : i ≤ j) (h : Place.at j < p) : Place.at i < p := by
  change Place.lt _ _ = true at h ⊢
  cases p with
  | bottom => cases h
  | «at» k => simp only [lt, decide_eq_true_eq] at h ⊢; omega
  | top => rfl

theorem Number.lt_of_value_le {a b c : Number} (ha : a.isFinite = true) (hb : b.isFinite = true)
    (hab : a.value ≤ b.value) (hbc : b < c) : a < c := by
  obtain ⟨j, hj, hja⟩ := place?_of_isFinite ha
  obtain ⟨k, hk, hkb⟩ := place?_of_isFinite hb
  rw [hja, hkb, div_le_div_iff_of_pos_right Magnitude.unitsInOne_cast_pos, Int.cast_le] at hab
  obtain ⟨p, q, hp, hq, hpq⟩ := lt_iff.mp hbc
  obtain rfl : p = .at k := Option.some.inj (hp.symm.trans hk)
  exact lt_iff.mpr ⟨.at j, q, hj, hq, Place.at_lt_of_le hab hpq⟩

namespace Thresholds

/-- Finite thresholds, none of which is above that of the other pair. Those of a pair may be in any order. -/
structure NotAbove (t t' : Thresholds) : Prop where
  finite : t.low.isFinite = true ∧ t.high.isFinite = true
  finite' : t'.low.isFinite = true ∧ t'.high.isFinite = true
  low : t.low.value ≤ t'.low.value
  high : t.high.value ≤ t'.high.value

variable {t t' : Thresholds} {score : Number}

theorem NotAbove.isProblematic_low (h : t.NotAbove t') (hscore : isProblematic score t'.low = true) :
    isProblematic score t.low = true :=
  decide_eq_true (Number.lt_of_value_le h.finite.1 h.finite'.1 h.low (of_decide_eq_true hscore))

theorem NotAbove.severityOf_le (h : t.NotAbove t') (score : Number) : severityOf score t' ≤ severityOf score t := by
  unfold severityOf
  by_cases hhigh : t'.high < score
  case pos =>
    rw [if_pos hhigh, if_pos (Number.lt_of_value_le h.finite.2 h.finite'.2 h.high hhigh)]
    decide
  case neg =>
    rw [if_neg hhigh]
    by_cases hlow : t'.low < score
    case pos =>
      rw [if_pos hlow, if_pos (Number.lt_of_value_le h.finite.1 h.finite'.1 h.low hlow)]
      split <;> decide
    case neg =>
      rw [if_neg hlow]
      exact Nat.zero_le _

end Thresholds

/-! ## Softened measurements -/

variable {t t' : Thresholds} {metric : Metric}

namespace Measurement

structure Softened (m m' : Measurement) : Prop where
  rest : m' = { m with severity := m'.severity }
  severity : m'.severity ≤ m.severity

theorem exists_softened {unit : Node} {m : Measurement} (h : t.NotAbove t') (hm : of unit t metric = .ok m) :
    ∃ m', of unit t' metric = .ok m' ∧ m.Softened m' := by
  obtain ⟨name, hname, rfl⟩ := of_eq_ok.mp hm
  exact ⟨named unit name t' metric, of_found hname, rfl, h.severityOf_le _⟩

end Measurement

namespace Report

def placesAbove (r : Report) (low : Number) : List Nat := r.findIdxs fun m => isProblematic m.score low

theorem map_placesAbove (r : Report) (low : Number) :
    (r.placesAbove low).map (r[·]?) = (r.problematic low).map some := by
  apply List.ext_getElem
  · simp [placesAbove, problematic, List.countP_eq_length_filter]
  · intro i hi hi'
    simp only [List.getElem_map, placesAbove, problematic]
    rw [List.getElem_filter_eq_getElem_getElem_findIdxs, List.getElem?_eq_getElem]

theorem placesAbove_eq_findIdxs_map (r : Report) (low : Number) :
    r.placesAbove low = (r.map Measurement.score).findIdxs fun score => isProblematic score low := by
  rw [List.findIdxs_map]; rfl

theorem placesAbove_of_softened {r r' : Report} (h : List.Forall₂ Measurement.Softened r r') (low : Number) :
    r'.placesAbove low = r.placesAbove low := by
  have hscores : r'.map Measurement.score = r.map Measurement.score := by
    induction h with
    | nil => rfl
    | cons hm _ ih => rw [List.map_cons, List.map_cons, ih, hm.rest]
  rw [placesAbove_eq_findIdxs_map, hscores, placesAbove_eq_findIdxs_map]

theorem findIdxs_sublist {α : Type} {p q : α → Bool} (h : ∀ x, q x = true → p x = true) (xs : List α) (start : Nat) :
    (xs.findIdxs q start).Sublist (xs.findIdxs p start) := by
  induction xs generalizing start with
  | nil => exact .slnil
  | cons x rest ih =>
    rw [List.findIdxs_cons, List.findIdxs_cons]
    by_cases hq : q x = true
    · rw [if_pos hq, if_pos (h x hq)]
      exact (ih _).cons_cons _
    · rw [if_neg hq]
      split
      · exact (ih _).cons _
      · exact ih _

theorem placesAbove_sublist (h : t.NotAbove t') (r : Report) :
    (r.placesAbove t'.low).Sublist (r.placesAbove t.low) :=
  findIdxs_sublist (fun _ => h.isProblematic_low) r 0

theorem exists_softened {tree : Node} {r : Report} (h : t.NotAbove t') (hr : ofTree (some tree) t metric = .ok r) :
    ∃ r', ofTree (some tree) t' metric = .ok r' ∧ List.Forall₂ Measurement.Softened r r' := by
  rw [ofTree_eq_ok] at hr
  simp only [ofTree_eq_ok]
  generalize tree.units = units at hr ⊢
  induction hr with
  | nil => exact ⟨[], .nil, .nil⟩
  | cons hm _ ih =>
    obtain ⟨m', hm', hsoft⟩ := Measurement.exists_softened h hm
    obtain ⟨rest, hrest, hrow⟩ := ih
    exact ⟨m' :: rest, .cons hm' hrest, .cons hsoft hrow⟩

/-- **Thresholds change severities alone.** With thresholds that are not lower, an analysis fails as it did, for the
name of the same unit, or it gives the same measurements but for their severities, none of which is higher. The places
of the units that it lists are among those of the units listed before, in the same order. -/
theorem raised_thresholds_soften (h : t.NotAbove t') (root : Option Node) (metric : Metric) :
    (∃ tree within, root = some tree ∧ tree.FirstLost within ∧
      ofTree root t metric = .error (nameFailure within) ∧ ofTree root t' metric = .error (nameFailure within)) ∨
    ∃ r r', ofTree root t metric = .ok r ∧ ofTree root t' metric = .ok r' ∧
      List.Forall₂ Measurement.Softened r r' ∧
      (∀ (s : Report) low, (s.placesAbove low).map (s[·]?) = (s.problematic low).map some) ∧
      (∀ low, r'.placesAbove low = r.placesAbove low) ∧
      (r'.placesAbove t'.low).Sublist (r.placesAbove t.low) := by
  cases root with
  | none => exact .inr ⟨[], [], rfl, rfl, .nil, map_placesAbove, fun _ => rfl, .slnil⟩
  | some tree =>
    cases hr : ofTree (some tree) t metric with
    | error e =>
      obtain ⟨within, hlost, rfl⟩ := ofTree_eq_error.mp hr
      exact .inl ⟨tree, within, rfl, hlost, rfl, ofTree_eq_error.mpr ⟨within, hlost, rfl⟩⟩
    | ok r =>
      obtain ⟨r', hr', hrow⟩ := exists_softened h hr
      refine .inr ⟨r, r', rfl, hr', hrow, map_placesAbove, placesAbove_of_softened hrow, ?_⟩
      rw [placesAbove_of_softened hrow]
      exact placesAbove_sublist h r

end Report

def deciding : Node := functionAt 0 2 [{ kind := "if_statement" }]

theorem units_deciding : deciding.units = [deciding] := by
  rw [Node.units_eq_filter_preorder]; rfl

namespace Report

theorem map_severity_deciding {r : Report} (h : ofTree (some deciding) t metric = .ok r) :
    r.map Measurement.severity = [severityOf (metric.measure deciding) t] := by
  rw [ofTree_eq_ok, units_deciding, List.forall₂_cons_left_iff] at h
  obtain ⟨m, rest, hm, hrest, rfl⟩ := h
  obtain rfl := List.forall₂_nil_left_iff.mp hrest
  rw [List.map_singleton, (Measurement.of_eq_ok_iff_describes.mp hm).severity]

/-- A score on the high threshold is not above it, so the error becomes a warning. -/
theorem raised_thresholds_soften_deciding :
    Thresholds.NotAbove ⟨1, 1⟩ ⟨.float .one, 2⟩ ∧
    ∃ r r', ofTree (some deciding) ⟨1, 1⟩ .cyclomatic = .ok r ∧
      ofTree (some deciding) ⟨.float .one, 2⟩ .cyclomatic = .ok r' ∧ List.Forall₂ Measurement.Softened r r' ∧
      r.map Measurement.severity = [.error] ∧ r'.map Measurement.severity = [.warning] := by
  have hraised : Thresholds.NotAbove ⟨1, 1⟩ ⟨.float .one, 2⟩ := by
    have hone : Binary64.one.value = 1 := by rw [Binary64.isHalves_one.value_eq]; norm_num
    refine ⟨⟨rfl, rfl⟩, ⟨rfl, rfl⟩, ?_, ?_⟩
    · change ((1 : Int) : ℚ) ≤ Binary64.one.value
      rw [hone, Int.cast_one]
    · change ((1 : Int) : ℚ) ≤ ((2 : Int) : ℚ)
      norm_num
  refine ⟨hraised, ?_⟩
  rcases raised_thresholds_soften hraised (some deciding) .cyclomatic with
    ⟨_, _, _, _, herror, _⟩ | ⟨r, r', hr, hr', hrow, -⟩
  case inl =>
    have hname : ∀ unit ∈ deciding.units, unit.HasName := by
      rw [units_deciding]
      simp [deciding, functionAt_hasName]
    obtain ⟨r, hr⟩ := (@exists_ofTree_iff deciding ⟨1, 1⟩ .cyclomatic).mpr hname
    rw [hr] at herror
    cases herror
  case inr =>
    refine ⟨r, r', hr, hr', hrow, ?_, ?_⟩
    · rw [map_severity_deciding hr]
      decide +kernel
    · rw [map_severity_deciding hr']
      decide +kernel

end Report

end FunctionMetrics
