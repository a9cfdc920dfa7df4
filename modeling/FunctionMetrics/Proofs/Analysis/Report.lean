import FunctionMetrics.Analysis.Report
import FunctionMetrics.Proofs.Analysis.Score
import FunctionMetrics.Proofs.Number.Order
import FunctionMetrics.Proofs.Syntax.Search

/-!
# What a report says

A report has one measurement for each unit, or it is the failure of the first unit without a name. The measurements
above the low threshold are those that are more than information.
-/

namespace FunctionMetrics

/-! ## Names -/

def Range.isWritable (r : Range) : Bool :=
  [r.start.row + 1, r.start.column, r.stop.row + 1, r.stop.column].all fun n => (Number.digits? n).isSome

def nameFailure (within : Node) : Failure :=
  if within.range.isWritable then .problem (.nameNotFound within.kind within.range) else .fault .unwritable

namespace Node

def HasName (unit : Node) : Prop := ∃ name, unit.findName = .found name

theorem name_of_found {unit name : Node} (h : unit.findName = .found name) : unit.name = .ok name := by
  unfold Node.name; rw [h]

theorem name_of_lost {unit within : Node} (h : unit.findName = .lost within) :
    unit.name = .error (nameFailure within) := by
  unfold Node.name; rw [h]
  unfold nameFailure
  exact (apply_ite Except.error _ _ _).symm

/-- The search for the name of the first unit without one ends within a node. -/
def FirstLost (root within : Node) : Prop :=
  ∃ before unit after, root.units = before ++ unit :: after ∧ (∀ u ∈ before, u.HasName) ∧
    unit.findName = .lost within

theorem lost_of_not_hasName {unit : Node} (h : ¬ unit.HasName) : ∃ within, unit.findName = .lost within := by
  cases hf : unit.findName with
  | found name => exact absurd ⟨name, hf⟩ h
  | lost within => exact ⟨within, rfl⟩

end Node

/-! ## Measurements -/

namespace Measurement

def named (unit name : Node) (t : Thresholds) (metric : Metric) : Measurement where
  name := Utf8.decodeLossy name.text
  nameRange := name.range
  unitRange := unit.range
  score := metric.measure unit
  severity := severityOf (metric.measure unit) t
  label := metric.label

variable {unit : Node} {t : Thresholds} {metric : Metric} {m : Measurement}

theorem of_found {name : Node} (h : unit.findName = .found name) : of unit t metric = .ok (named unit name t metric) := by
  rw [of, Node.name_of_found h]; rfl

theorem of_weightless {name : Node} (hname : unit.findName = .found name)
    (h : ∀ n ∈ unit.descendants, weightOf n.kind = .zero) :
    of unit t .cyclomatic = .ok {
      name := Utf8.decodeLossy name.text, nameRange := name.range, unitRange := unit.range,
      score := .float .one, severity := severityOf (.float .one) t } := by
  have hmeasure : Metric.cyclomatic.measure unit = .float .one := congrArg Number.float (complexity_of_weightless h)
  rw [of_found hname, named, hmeasure]

theorem of_lost {within : Node} (h : unit.findName = .lost within) : of unit t metric = .error (nameFailure within) := by
  rw [of, Node.name_of_lost h]; rfl

theorem of_eq_ok : of unit t metric = .ok m ↔ ∃ name, unit.findName = .found name ∧ m = named unit name t metric := by
  cases h : unit.findName with
  | found name => simp [of_found h, eq_comm]
  | lost within => simp [of_lost h]

theorem of_eq_error {e : Failure} :
    of unit t metric = .error e ↔ ∃ within, unit.findName = .lost within ∧ e = nameFailure within := by
  cases h : unit.findName with
  | found name => simp [of_found h]
  | lost within => simp [of_lost h, eq_comm]

/-- What a measurement tells about a unit and about the node that its name is found in. -/
structure Describes (t : Thresholds) (metric : Metric) (unit : Node) (m : Measurement) : Prop where
  named : ∃ name, unit.findName = .found name ∧ m.name = Utf8.decodeLossy name.text ∧ m.nameRange = name.range
  unitRange : m.unitRange = unit.range
  score : m.score = metric.measure unit
  severity : m.severity = severityOf (metric.measure unit) t
  label : m.label = metric.label

/-- Nothing of a measurement is left open by what it tells. -/
theorem of_eq_ok_iff_describes : of unit t metric = .ok m ↔ Describes t metric unit m := by
  rw [of_eq_ok]
  constructor
  · rintro ⟨name, hname, rfl⟩
    exact ⟨⟨name, hname, rfl, rfl⟩, rfl, rfl, rfl, rfl⟩
  · rintro ⟨⟨name, hname, htext, hrange⟩, hunit, hscore, hseverity, hlabel⟩
    refine ⟨name, hname, ?_⟩
    cases m
    subst htext hrange hunit hscore hseverity hlabel
    rfl

theorem severity_of (h : of unit t metric = .ok m) : m.severity = severityOf m.score t := by
  obtain ⟨name, -, rfl⟩ := of_eq_ok.mp h
  rfl

theorem message_of (h : of unit t .cyclomatic = .ok m) : ∃ text, m.message = .ok text := by
  obtain ⟨name, -, rfl⟩ := of_eq_ok.mp h
  obtain ⟨s, hs⟩ := scoreText_of_isFinite (complexity_isFinite unit)
  exact ⟨_, Outcome.map_eq_ok.mpr ⟨s, hs, rfl⟩⟩

end Measurement

/-! ## Reports -/

namespace Report

variable {root : Node} {t : Thresholds} {metric : Metric} {r : Report}

theorem ofTree_some (root : Node) (t : Thresholds) (metric : Metric) :
    ofTree (some root) t metric = root.units.mapM fun unit => Measurement.of unit t metric := rfl

theorem ofTree_eq_ok :
    ofTree (some root) t metric = .ok r ↔
      List.Forall₂ (fun unit m => Measurement.of unit t metric = .ok m) root.units r := Outcome.mapM_eq_ok

theorem forall₂_describes {α : Type} {places : List α} {node : α → Node} (hplaces : places.map node = root.units)
    (h : ofTree (some root) t metric = .ok r) :
    List.Forall₂ (fun place m => Measurement.Describes t metric (node place) m) places r := by
  have hrow := ofTree_eq_ok.mp h
  rw [← hplaces, List.forall₂_map_left_iff] at hrow
  exact hrow.imp fun _ _ hof => Measurement.of_eq_ok_iff_describes.mp hof

theorem exists_ofTree_iff : (∃ r, ofTree (some root) t metric = .ok r) ↔ ∀ unit ∈ root.units, unit.HasName := by
  constructor
  · rintro ⟨r, hr⟩ unit hunit
    by_contra hname
    obtain ⟨within, hlost⟩ := Node.lost_of_not_hasName hname
    obtain ⟨m, -, hm⟩ := exists_of_mem_left (ofTree_eq_ok.mp hr) hunit
    rw [Measurement.of_lost hlost] at hm
    cases hm
  · intro h
    apply Outcome.mapM_ok_of_forall
    intro unit hunit
    obtain ⟨name, hname⟩ := h unit hunit
    exact ⟨_, Measurement.of_found hname⟩

theorem ofTree_eq_error {e : Failure} :
    ofTree (some root) t metric = .error e ↔ ∃ within, root.FirstLost within ∧ e = nameFailure within := by
  rw [ofTree_some, Outcome.mapM_eq_error]
  constructor
  · rintro ⟨before, unit, after, hunits, hbefore, he⟩
    obtain ⟨within, hlost, rfl⟩ := Measurement.of_eq_error.mp he
    refine ⟨within, ⟨before, unit, after, hunits, ?_, hlost⟩, rfl⟩
    intro u hu
    obtain ⟨m, hm⟩ := hbefore u hu
    obtain ⟨name, hname, -⟩ := Measurement.of_eq_ok.mp hm
    exact ⟨name, hname⟩
  · rintro ⟨within, ⟨before, unit, after, hunits, hbefore, hlost⟩, rfl⟩
    refine ⟨before, unit, after, hunits, ?_, Measurement.of_lost hlost⟩
    intro u hu
    obtain ⟨name, hname⟩ := hbefore u hu
    exact ⟨_, Measurement.of_found hname⟩

/-- **A report is complete or absent.** It has one measurement for each unit, in pre-order, and each describes its own
unit. Otherwise it is the failure of the search for one name: that of the first unit that has none. The failure names
the node in which that search ended, unless a number in its place has too many digits to be written. -/
theorem complete_or_absent (root : Node) (t : Thresholds) (metric : Metric) :
    (∀ r, ofTree (some root) t metric = .ok r ↔
      List.Forall₂ (Measurement.Describes t metric) (root.preorder.filter Node.isUnit) r) ∧
    (∀ e, ofTree (some root) t metric = .error e ↔
      ∃ before unit after within, root.preorder.filter Node.isUnit = before ++ unit :: after ∧
        (∀ u ∈ before, ∃ name, u.findName = .found name) ∧ unit.findName = .lost within ∧
        e = if within.range.isWritable then .problem (.nameNotFound within.kind within.range)
          else .fault .unwritable) ∧
    ((∃ e, ofTree (some root) t metric = .error e) ↔
      ∃ unit ∈ root.preorder.filter Node.isUnit, ∃ within, unit.findName = .lost within) := by
  rw [← Node.units_eq_filter_preorder]
  refine ⟨?_, ?_, ?_⟩
  case refine_1 =>
    intro r
    simp only [ofTree_eq_ok, Measurement.of_eq_ok_iff_describes]
  case refine_2 =>
    intro e
    rw [ofTree_eq_error]
    constructor
    · rintro ⟨within, ⟨before, unit, after, hunits, hbefore, hlost⟩, he⟩
      exact ⟨before, unit, after, within, hunits, hbefore, hlost, he⟩
    · rintro ⟨before, unit, after, within, hunits, hbefore, hlost, he⟩
      exact ⟨within, ⟨before, unit, after, hunits, hbefore, hlost⟩, he⟩
  case refine_3 =>
    constructor
    · rintro ⟨e, he⟩
      obtain ⟨within, ⟨before, unit, after, hunits, -, hlost⟩, -⟩ := ofTree_eq_error.mp he
      exact ⟨unit, by rw [hunits]; simp, within, hlost⟩
    · rintro ⟨unit, hunit, within, hlost⟩
      cases h : ofTree (some root) t metric with
      | error e => exact ⟨e, rfl⟩
      | ok r =>
        obtain ⟨name, hname⟩ := exists_ofTree_iff.mp ⟨r, h⟩ unit hunit
        rw [hname] at hlost
        cases hlost

theorem exists_unit_of_mem {root : Option Node} (h : ofTree root t metric = .ok r) {m : Measurement} (hm : m ∈ r) :
    ∃ unit, Measurement.of unit t metric = .ok m := by
  cases root with
  | none => cases h; cases hm
  | some root =>
    obtain ⟨unit, -, hunit⟩ := exists_of_mem_right (ofTree_eq_ok.mp h) hm
    exact ⟨unit, hunit⟩

theorem message_of_mem {root : Option Node} (h : ofTree root t .cyclomatic = .ok r) {m : Measurement} (hm : m ∈ r) :
    ∃ text, m.message = .ok text := by
  obtain ⟨unit, hunit⟩ := exists_unit_of_mem h hm
  exact Measurement.message_of hunit

end Report

/-! ## Severity -/

theorem severityOf_eq_error_iff {score : Number} {t : Thresholds} : severityOf score t = .error ↔ t.high < score := by
  unfold severityOf
  split_ifs <;> simp_all

theorem isProblematic_iff {t : Thresholds} (h : t.low < t.high) {score : Number} :
    isProblematic score t.low = true ↔ severityOf score t ≠ .info := by
  unfold isProblematic severityOf
  rw [decide_eq_true_eq]
  split_ifs with hhigh hlow
  · simp [Number.lt_trans h hhigh]
  · simp [hlow]
  · simp [hlow]

end FunctionMetrics
