import FunctionMetrics.Proofs.Analysis.Report
import FunctionMetrics.Proofs.Syntax.Places

/-!
# Units inside units

The units of a report stand in the order in which they start, and two of them are nested or apart.
-/

namespace FunctionMetrics

namespace Report

variable {root : Node} {t : Thresholds} {metric : Metric} {r : Report}

theorem map_unitRange (h : ofTree (some root) t metric = .ok r) :
    r.map Measurement.unitRange = root.units.map Node.range := by
  have hrow : List.Forall₂ (· = ·) (root.units.map Node.range) (r.map Measurement.unitRange) := by
    rw [List.forall₂_map_left_iff, List.forall₂_map_right_iff]
    exact (ofTree_eq_ok.mp h).imp fun _ _ hm => (Measurement.of_eq_ok_iff_describes.mp hm).unitRange.symm
  rw [List.forall₂_eq_eq_eq] at hrow
  exact hrow.symm

/-- **Units are nested or apart.** Where a tree is well placed, a unit of its report starts no later than those that
come after it, and it holds each of them whole or ends before that one starts. So no unit starts inside another one
and ends outside. -/
theorem units_nested_or_apart (hroot : root.WellPlaced) (h : ofTree (some root) t metric = .ok r) :
    (r.Pairwise fun a b => a.unitRange.start ≤ b.unitRange.start ∧
      (b.unitRange.Within a.unitRange ∨ a.unitRange.stop ≤ b.unitRange.start)) ∧
    ∀ a ∈ r, ∀ b ∈ r, ¬ a.unitRange.Crosses b.unitRange := by
  have hranges : (root.units.map Node.range).Pairwise Range.Leads := by
    rw [List.pairwise_map, Node.units_eq_filter_preorder]
    exact hroot.pairwise_leads.filter _
  rw [← map_unitRange h] at hranges
  refine ⟨List.pairwise_map.mp hranges, ?_⟩
  intro a ha b hb
  exact Range.not_crosses_of_pairwise hranges _ (List.mem_map_of_mem ha) _ (List.mem_map_of_mem hb)

end Report

def functionAt (first last : Int) (inside : List Node) : Node where
  kind := "function_definition"
  range := ⟨⟨first, 0⟩, ⟨last, 0⟩⟩
  children := { kind := "identifier", range := ⟨⟨first, 4⟩, ⟨first, 5⟩⟩, text := [102] } :: inside

theorem functionAt_hasName (first last : Int) (inside : List Node) : (functionAt first last inside).HasName :=
  ⟨{ kind := "identifier", range := ⟨⟨first, 4⟩, ⟨first, 5⟩⟩, text := [102] }, by rw [Node.findName]; rfl⟩

/-- Two functions inside a third one, and a fourth behind it. -/
def nested : Node where
  kind := "module"
  range := ⟨.origin, ⟨9, 0⟩⟩
  children := [functionAt 0 4 [functionAt 1 2 [], functionAt 2 4 []], functionAt 6 8 []]

theorem Report.units_nested_or_apart_nested :
    nested.WellPlaced ∧ ∃ r, ofTree (some nested) {} .cyclomatic = .ok r ∧ r.length = 4 ∧
      (r.Pairwise fun a b => a.unitRange.start ≤ b.unitRange.start ∧
        (b.unitRange.Within a.unitRange ∨ a.unitRange.stop ≤ b.unitRange.start)) ∧
      ∀ a ∈ r, ∀ b ∈ r, ¬ a.unitRange.Crosses b.unitRange := by
  have hplaced : nested.WellPlaced := by
    unfold Node.WellPlaced
    rw [Node.nodes_eq_preorder]
    decide +kernel
  have hunits : nested.units =
      [functionAt 0 4 [functionAt 1 2 [], functionAt 2 4 []], functionAt 1 2 [], functionAt 2 4 [], functionAt 6 8 []] := by
    rw [Node.units_eq_filter_preorder]
    rfl
  have hname : ∀ unit ∈ nested.units, unit.HasName := by
    rw [hunits]
    simp [functionAt_hasName]
  obtain ⟨r, hr⟩ := exists_ofTree_iff.mpr hname
  have hlength : r.length = 4 := by rw [← (ofTree_eq_ok.mp hr).length_eq, hunits]; rfl
  exact ⟨hplaced, r, hr, hlength, units_nested_or_apart hplaced hr⟩

end FunctionMetrics
