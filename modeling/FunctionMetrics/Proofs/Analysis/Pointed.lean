import FunctionMetrics.Proofs.Analysis.Nesting
import FunctionMetrics.Proofs.Syntax.Enclosing

/-!
# The unit at a point

A report is searched from its front, and there a unit stands before the units inside it. Where rows are nested, the
first unit over a row is therefore inside no other one.
-/

namespace FunctionMetrics

namespace Occurrence

def IsOutermost (x : Occurrence) : Prop := ∀ u ∈ x.above, u.isUnit = false

def IsOver (x : Occurrence) (row : Int) : Prop := x.node.range.start.row ≤ row ∧ row ≤ x.node.range.stop.row

instance (x : Occurrence) : Decidable x.IsOutermost := inferInstanceAs (Decidable (∀ u ∈ x.above, u.isUnit = false))
instance (x : Occurrence) (row : Int) : Decidable (x.IsOver row) :=
  inferInstanceAs (Decidable (x.node.range.start.row ≤ row ∧ row ≤ x.node.range.stop.row))

end Occurrence

namespace Report

variable {root : Node} {t : Thresholds} {metric : Metric} {r : Report} {p : Position}

/-! ## Units at their places -/

theorem forall₂_unitOccurrences (h : ofTree (some root) t metric = .ok r) :
    List.Forall₂ (fun x m => Measurement.Describes t metric x.node m) root.unitOccurrences r :=
  forall₂_describes (Node.map_node_unitOccurrences root) h

theorem spans_iff_isOver {x : Occurrence} {m : Measurement} (h : Measurement.Describes t metric x.node m) :
    m.unitRange.spans p = true ↔ x.IsOver p.row := by
  rw [Range.spans, h.unitRange, Range.spansRow_iff]
  rfl

theorem containing?_eq_some_iff (h : ofTree (some root) t metric = .ok r) {m : Measurement} :
    r.containing? p = some m ↔
      ∃ (i : Nat) (x : Occurrence), root.unitOccurrences[i]? = some x ∧ r[i]? = some m ∧ x.IsOver p.row ∧
        ∀ (k : Nat) (y : Occurrence), k < i → root.unitOccurrences[k]? = some y → ¬ y.IsOver p.row := by
  have hplaces := forall₂_unitOccurrences h
  have hlength := hplaces.length_eq
  have hover : ∀ (k : Nat) (hk : k < root.unitOccurrences.length) (hk' : k < r.length),
      r[k].unitRange.spans p = true ↔ root.unitOccurrences[k].IsOver p.row := fun k hk hk' =>
    spans_iff_isOver (hplaces.get hk hk')
  rw [containing?, List.find?_eq_some_iff_getElem]
  constructor
  · rintro ⟨hspans, i, hi, rfl, hbefore⟩
    have hix : i < root.unitOccurrences.length := by rw [hlength]; exact hi
    refine ⟨i, root.unitOccurrences[i], by simp, by simp, (hover i hix hi).mp hspans, ?_⟩
    intro k y hk hy hyover
    obtain ⟨hkx, rfl⟩ := List.getElem?_eq_some_iff.mp hy
    have hspans := (hover k hkx (by omega)).mpr hyover
    have hnot := hbefore k hk
    rw [hspans] at hnot
    cases hnot
  · rintro ⟨i, x, hx, hm, hxover, hbefore⟩
    obtain ⟨hix, rfl⟩ := List.getElem?_eq_some_iff.mp hx
    obtain ⟨hi, rfl⟩ := List.getElem?_eq_some_iff.mp hm
    refine ⟨(hover i hix hi).mpr hxover, i, hi, rfl, ?_⟩
    intro k hk
    have hnot := mt (hover k (by omega) (by omega)).mp (hbefore k _ hk (List.getElem?_eq_getElem (by omega)))
    simpa using hnot

theorem containing?_eq_none_iff (h : ofTree (some root) t metric = .ok r) :
    r.containing? p = none ↔
      ∀ unit ∈ root.units, ¬ (unit.range.start.row ≤ p.row ∧ p.row ≤ unit.range.stop.row) := by
  have hranges := map_unitRange h
  rw [containing?, List.find?_eq_none]
  constructor
  · intro hnone unit hunit hover
    have hmem : unit.range ∈ r.map Measurement.unitRange := by
      rw [hranges]
      exact List.mem_map_of_mem hunit
    obtain ⟨m, hm, hrange⟩ := List.mem_map.mp hmem
    apply hnone m hm
    rw [Range.spans, hrange, Range.spansRow_iff]
    exact hover
  · intro hnone m hm hspans
    have hmem : m.unitRange ∈ root.units.map Node.range := by
      rw [← hranges]
      exact List.mem_map_of_mem hm
    obtain ⟨unit, hunit, hrange⟩ := List.mem_map.mp hmem
    rw [Range.spans, ← hrange, Range.spansRow_iff] at hspans
    exact hnone unit hunit hspans

/-! ## The first unit over a row -/

/-- Where rows are nested, the first unit over a row is an outermost one. -/
theorem isOutermost_of_first (hrows : root.RowsNested) {row : Int} {i : Nat} {x : Occurrence}
    (hx : root.unitOccurrences[i]? = some x) (hover : x.IsOver row)
    (hbefore : ∀ (k : Nat) (y : Occurrence), k < i → root.unitOccurrences[k]? = some y → ¬ y.IsOver row) :
    x.IsOutermost := by
  obtain ⟨hi, rfl⟩ := List.getElem?_eq_some_iff.mp hx
  apply Node.not_isUnit_of_first_getElem hrows hi _ (Range.spansRow_iff.mpr hover)
  intro k hk
  have hnot := hbefore k _ hk (List.getElem?_eq_getElem (by omega))
  rw [← Bool.not_eq_true, Range.spansRow_iff]
  exact hnot

theorem exists_first_over {row : Int} {j : Nat} {y : Occurrence} (hy : root.unitOccurrences[j]? = some y)
    (hover : y.IsOver row) :
    ∃ (i : Nat) (x : Occurrence), i ≤ j ∧ root.unitOccurrences[i]? = some x ∧ x.IsOver row ∧
      ∀ (k : Nat) (z : Occurrence), k < i → root.unitOccurrences[k]? = some z → ¬ z.IsOver row := by
  induction j using Nat.strong_induction_on generalizing y with
  | _ j ih =>
    by_cases hearlier : ∃ (k : Nat) (z : Occurrence), k < j ∧ root.unitOccurrences[k]? = some z ∧ z.IsOver row
    · obtain ⟨k, z, hk, hz, hzover⟩ := hearlier
      obtain ⟨i, x, hik, hx⟩ := ih k hk hz hzover
      exact ⟨i, x, by omega, hx⟩
    · refine ⟨j, y, Nat.le_refl j, hy, hover, ?_⟩
      intro k z hk hz hzover
      exact hearlier ⟨k, z, hk, hz, hzover⟩

/-- The unit that is first over a row, of those up to one that is. No unit is around it. -/
theorem exists_first (hrows : root.RowsNested) (h : ofTree (some root) t metric = .ok r) {i : Nat}
    (hi : i < r.length) (hspans : r[i].unitRange.spans p = true) :
    ∃ (j : Nat) (x : Occurrence) (m : Measurement), j ≤ i ∧ root.unitOccurrences[j]? = some x ∧ r[j]? = some m ∧
      r.containing? p = some m ∧ Measurement.Describes t metric x.node m ∧ m.unitRange.spans p = true ∧
      ∀ u ∈ x.above, u.isUnit = false := by
  have hplaces := forall₂_unitOccurrences h
  have hix : i < root.unitOccurrences.length := by rw [hplaces.length_eq]; exact hi
  obtain ⟨j, x, hji, hx, hover, hbefore⟩ :=
    exists_first_over (List.getElem?_eq_getElem hix) ((spans_iff_isOver (hplaces.get hix hi)).mp hspans)
  have hm : r[j]? = some r[j] := List.getElem?_eq_getElem (by omega)
  have hfirst : r.containing? p = some r[j] := (containing?_eq_some_iff h).mpr ⟨j, x, hx, hm, hover, hbefore⟩
  have houtermost := isOutermost_of_first hrows hx hover hbefore
  obtain ⟨hjx, rfl⟩ := List.getElem?_eq_some_iff.mp hx
  have hdescribes : Measurement.Describes t metric root.unitOccurrences[j].node r[j] := hplaces.get hjx (by omega)
  exact ⟨j, _, r[j], hji, hx, hm, hfirst, hdescribes, (spans_iff_isOver hdescribes).mpr hover, houtermost⟩

/-- **The unit at a point is an outermost one.** There is none exactly if no unit of the tree is over the row. Otherwise
it is the unit of the first place, in pre-order, of those over the row that no unit is around. The column plays no
part. -/
theorem outermost_unit_at_point (hrows : root.RowsNested) (h : ofTree (some root) t metric = .ok r) (p : Position) :
    (r.containing? p = none ↔
      ∀ unit ∈ root.units, ¬ (unit.range.start.row ≤ p.row ∧ p.row ≤ unit.range.stop.row)) ∧
    (∀ m, r.containing? p = some m ↔
      ∃ (i : Nat) (x : Occurrence), root.unitOccurrences[i]? = some x ∧ r[i]? = some m ∧
        Measurement.Describes t metric x.node m ∧ x.IsOutermost ∧ x.IsOver p.row ∧
        ∀ (k : Nat) (y : Occurrence), k < i → root.unitOccurrences[k]? = some y → y.IsOutermost → ¬ y.IsOver p.row) ∧
    ∀ column, r.containing? { p with column } = r.containing? p := by
  refine ⟨containing?_eq_none_iff h, fun m => ⟨?_, ?_⟩, fun column => rfl⟩
  case refine_1 =>
    intro hm
    obtain ⟨i, x, hx, hi, hover, hbefore⟩ := (containing?_eq_some_iff h).mp hm
    have hdescribes : Measurement.Describes t metric x.node m := by
      obtain ⟨hix, rfl⟩ := List.getElem?_eq_some_iff.mp hx
      obtain ⟨hir, rfl⟩ := List.getElem?_eq_some_iff.mp hi
      exact (forall₂_unitOccurrences h).get hix hir
    refine ⟨i, x, hx, hi, hdescribes, isOutermost_of_first hrows hx hover hbefore, hover, ?_⟩
    exact fun k y hk hy _ => hbefore k y hk hy
  case refine_2 =>
    rintro ⟨i, x, hx, hi, -, -, hover, hbefore⟩
    apply (containing?_eq_some_iff h).mpr
    refine ⟨i, x, hx, hi, hover, ?_⟩
    intro k y hk hy hyover
    -- The first unit over the row up to this one is outermost, so it cannot stand before `x`.
    obtain ⟨j, z, hjk, hz, hzover, hfirst⟩ := exists_first_over hy hyover
    exact hbefore j z (by omega) hz (isOutermost_of_first hrows hz hzover hfirst) hzover

end Report

theorem rowsNested_nested : nested.RowsNested := by
  unfold Node.RowsNested
  rw [Node.nodes_eq_preorder]
  decide

theorem units_nested :
    nested.units =
      [functionAt 0 4 [functionAt 1 2 [], functionAt 2 4 []], functionAt 1 2 [], functionAt 2 4 [], functionAt 6 8 []] := by
  rw [Node.units_eq_filter_preorder]
  rfl

theorem Report.outermost_unit_at_point_nested :
    nested.RowsNested ∧ ∃ r, ofTree (some nested) {} .cyclomatic = .ok r ∧
      (∃ m, r[0]? = some m ∧ r.containing? ⟨2, 7⟩ = some m) ∧ r.containing? ⟨5, 0⟩ = none := by
  have hname : ∀ unit ∈ nested.units, unit.HasName := by
    rw [units_nested]
    simp [functionAt_hasName]
  obtain ⟨r, hr⟩ := exists_ofTree_iff.mpr hname
  have hlength : r.length = 4 := by rw [← (ofTree_eq_ok.mp hr).length_eq, units_nested]; rfl
  obtain ⟨-, hsome, -⟩ := outermost_unit_at_point rowsNested_nested hr ⟨2, 7⟩
  obtain ⟨hnone, -, -⟩ := outermost_unit_at_point rowsNested_nested hr ⟨5, 0⟩
  refine ⟨rowsNested_nested, r, hr, ⟨r[0], by simp, ?_⟩, ?_⟩
  · apply (hsome _).mpr
    have hplace : nested.unitOccurrences[0]? = some ⟨[nested], functionAt 0 4 [functionAt 1 2 [], functionAt 2 4 []]⟩ := rfl
    refine ⟨0, _, hplace, by simp, ?_, by decide, by decide, by simp⟩
    exact (forall₂_unitOccurrences hr).get (i := 0) (by decide) (by omega)
  · rw [hnone, units_nested]
    decide

end FunctionMetrics
