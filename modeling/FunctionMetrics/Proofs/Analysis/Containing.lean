import FunctionMetrics.Proofs.Analysis.Nesting
import FunctionMetrics.Proofs.Number.Monotone
import FunctionMetrics.Proofs.Syntax.Around

/-!
# Units that contain others

The nodes below a unit count for all units around it. So a unit is never milder than those that it contains, and where
one of these is listed the units around it are listed before it.
-/

namespace FunctionMetrics

open Binary64

/-! ## Scores -/

theorem foldl_notAbove (ns : List Node) {x y : Binary64} (h : x.NotAbove y)
    (hy : y.AtMost (2 ^ 53 * Magnitude.unitsInOne)) :
    (ns.foldl (fun sum n => sum + weightOf n.kind) x).NotAbove (ns.foldl (fun sum n => sum + weightOf n.kind) y) := by
  induction ns generalizing x y with
  | nil => exact h
  | cons n rest ih =>
    have hweight := weightOf_atMost n.kind
    have hsum := hy.add hweight (Nat.le_refl _) (Nat.le_refl _)
    exact ih (h.add hweight.notAbove_self hsum.isFinite) hsum

theorem notAbove_foldl (ns : List Node) {x : Binary64} (hx : x.AtMost (2 ^ 53 * Magnitude.unitsInOne)) :
    x.NotAbove (ns.foldl (fun sum n => sum + weightOf n.kind) x) := by
  induction ns generalizing x with
  | nil => exact hx.notAbove_self
  | cons n rest ih =>
    have hweight := weightOf_atMost n.kind
    have hsum := hx.add hweight (Nat.le_refl _) (Nat.le_refl _)
    exact (hx.notAbove_add hweight.zero_notAbove hsum.isFinite).trans (ih hsum)

theorem complexity_notAbove {unit n : Node} (h : n ∈ Node.forest unit.children) :
    (complexity n).NotAbove (complexity unit) := by
  obtain ⟨before, after, hsplit⟩ := Node.exists_descendants_eq h
  have hzero : zero.AtMost (2 ^ 53 * Magnitude.unitsInOne) := atMost_zero.mono (by omega)
  have hfront := foldl_atMost (before ++ [n]) hzero
  have hinner := foldl_atMost n.descendants hfront
  have hwhole := foldl_atMost after hinner
  have hsum : (n.descendants.foldl (fun sum n => sum + weightOf n.kind) .zero).NotAbove
      (unit.descendants.foldl (fun sum n => sum + weightOf n.kind) .zero) := by
    have hparts : before ++ n :: n.descendants ++ after = (before ++ [n]) ++ n.descendants ++ after := by simp
    rw [hsplit, hparts, List.foldl_append, List.foldl_append]
    exact (foldl_notAbove n.descendants hfront.zero_notAbove hfront).trans (notAbove_foldl after hinner)
  exact atMost_one.notAbove_self.add hsum (complexity_isFinite unit)

/-! ## Severities -/

theorem severityOf_mono {x y : Binary64} (h : x.NotAbove y) (t : Thresholds) :
    severityOf (.float x) t ≤ severityOf (.float y) t := by
  unfold severityOf
  by_cases hhigh : t.high < .float x
  case pos =>
    rw [if_pos hhigh, if_pos (Number.lt_of_notAbove h hhigh)]
    decide
  case neg =>
    rw [if_neg hhigh]
    by_cases hlow : t.low < .float x
    case pos =>
      rw [if_pos hlow, if_pos (Number.lt_of_notAbove h hlow)]
      split <;> decide
    case neg =>
      rw [if_neg hlow]
      exact Nat.zero_le _

theorem Severity.eq_error_of_le {s : Severity} (h : .error ≤ s) : s = .error := by
  cases s with
  | info | warning => exact absurd h (by decide)
  | error => rfl

/-! ## Units at their places -/

structure Placed where
  place : Visit
  unit : Measurement

namespace Report

variable {root : Node} {t : Thresholds} {metric : Metric} {r : Report}

def placed (r : Report) (root : Node) : List Placed := root.unitVisits.zipWith Placed.mk r

def placedAbove (r : Report) (root : Node) (low : Number) : List Placed :=
  (r.placed root).filter fun p => isProblematic p.unit.score low

theorem forall₂_unitVisits (h : ofTree (some root) t metric = .ok r) :
    List.Forall₂ (fun v m => Measurement.Describes t metric v.node m) root.unitVisits r :=
  forall₂_describes (Node.map_node_filter_visits root) h

theorem map_unit_placed (h : ofTree (some root) t metric = .ok r) : (r.placed root).map Placed.unit = r := by
  have hlength := (forall₂_unitVisits h).length_eq
  apply List.ext_getElem <;> simp [placed, hlength]

theorem map_unit_placedAbove (h : ofTree (some root) t metric = .ok r) (low : Number) :
    (r.placedAbove root low).map Placed.unit = r.problematic low :=
  calc (r.placedAbove root low).map Placed.unit
      = problematic ((r.placed root).map Placed.unit) low := by rw [problematic, List.filter_map]; rfl
    _ = r.problematic low := by rw [map_unit_placed h]

theorem map_place_placed (h : ofTree (some root) t metric = .ok r) :
    (r.placed root).map Placed.place = root.unitVisits := by
  have hlength := (forall₂_unitVisits h).length_eq
  apply List.ext_getElem <;> simp [placed, hlength]

theorem describes_of_mem_placed (h : ofTree (some root) t metric = .ok r) {p : Placed} (hp : p ∈ r.placed root) :
    Measurement.Describes t metric p.place.node p.unit := by
  obtain ⟨i, hi, rfl⟩ := List.getElem_of_mem hp
  simp only [placed, List.getElem_zipWith]
  exact (forall₂_unitVisits h).get _ _

theorem mem_unitVisits_of_mem_placed (h : ofTree (some root) t metric = .ok r) {p : Placed} (hp : p ∈ r.placed root) :
    p.place ∈ root.unitVisits := by
  rw [← map_place_placed h]
  exact List.mem_map_of_mem hp

theorem pairwise_placed (h : ofTree (some root) t metric = .ok r) :
    (r.placed root).Pairwise fun a b => a.place.path < b.place.path := by
  have hplaces := Node.pairwise_unitVisits root
  rwa [← map_place_placed h, List.pairwise_map] at hplaces

/-! ## The unit around another one -/

variable {a b : Placed}

/-- The score and the severity of the first unit are at least those of the second one. -/
structure NotMilder (a b : Measurement) : Prop where
  finite : a.score.isFinite = true ∧ b.score.isFinite = true
  score : b.score.value ≤ a.score.value
  severity : b.severity ≤ a.severity

theorem complexity_notAbove_of_around (h : ofTree (some root) t .cyclomatic = .ok r) (ha : a ∈ r.placed root)
    (hb : b ∈ r.placed root) (hab : a.place.Around b.place) :
    (complexity b.place.node).NotAbove (complexity a.place.node) := by
  have hreach := (Node.mem_unitVisits.mp (mem_unitVisits_of_mem_placed h ha)).1
  have hreach' := (Node.mem_unitVisits.mp (mem_unitVisits_of_mem_placed h hb)).1
  exact complexity_notAbove (Node.mem_forest_of_around hreach hreach' hab)

theorem notMilder_of_around (h : ofTree (some root) t .cyclomatic = .ok r) (ha : a ∈ r.placed root)
    (hb : b ∈ r.placed root) (hab : a.place.Around b.place) : NotMilder a.unit b.unit := by
  have hle := complexity_notAbove_of_around h ha hb hab
  have houter := describes_of_mem_placed h ha
  have hinner := describes_of_mem_placed h hb
  constructor
  · rw [houter.score, hinner.score]
    exact ⟨complexity_isFinite _, complexity_isFinite _⟩
  · rw [houter.score, hinner.score]
    exact hle.value_le
  · rw [houter.severity, hinner.severity]
    exact severityOf_mono hle t

theorem isProblematic_of_around (h : ofTree (some root) t .cyclomatic = .ok r) (ha : a ∈ r.placed root)
    (hb : b ∈ r.placed root) (hab : a.place.Around b.place) {low : Number}
    (hlow : isProblematic b.unit.score low = true) : isProblematic a.unit.score low = true := by
  have hle := complexity_notAbove_of_around h ha hb hab
  rw [(describes_of_mem_placed h hb).score] at hlow
  rw [(describes_of_mem_placed h ha).score]
  exact decide_eq_true (Number.lt_of_notAbove hle (of_decide_eq_true hlow))

/-- In a row in the order of the paths a place stands before all places that it is around. -/
theorem mem_before_of_around {ps before after : List Placed} (hps : ps.Pairwise fun a b => a.place.path < b.place.path)
    (hsplit : ps = before ++ b :: after) (ha : a ∈ ps) (hab : a.place.Around b.place) : a ∈ before := by
  have hlt := hab.path_lt
  rw [hsplit, List.pairwise_append, List.pairwise_cons] at hps
  obtain ⟨-, ⟨hafter, -⟩, -⟩ := hps
  rw [hsplit, List.mem_append, List.mem_cons] at ha
  rcases ha with hbefore | rfl | hmem
  · exact hbefore
  · exact absurd hlt (lt_irrefl _)
  · exact absurd (hafter a hmem) (lt_asymm hlt)

theorem exists_outermost_error (h : ofTree (some root) t .cyclomatic = .ok r) {m : Measurement} (hm : m ∈ r)
    (herror : m.severity = .error) :
    ∃ p ∈ r.placed root, p.unit.severity = .error ∧ ∀ a ∈ r.placed root, ¬ a.place.Around p.place := by
  rw [← map_unit_placed h, List.mem_map] at hm
  obtain ⟨b, hb, rfl⟩ := hm
  cases hfirst : (r.placed root).find? fun p => p.unit.severity = .error with
  | none =>
    have hnone := List.find?_eq_none.mp hfirst b hb
    simp [herror] at hnone
  | some p =>
    obtain ⟨hp, before, after, hsplit, hbefore⟩ := List.find?_eq_some_iff_append.mp hfirst
    have hmem : p ∈ r.placed root := List.mem_of_find?_eq_some hfirst
    refine ⟨p, hmem, of_decide_eq_true hp, ?_⟩
    intro a ha hap
    have hrank := (notMilder_of_around h ha hmem hap).severity
    rw [of_decide_eq_true hp] at hrank
    have hearlier := hbefore a (mem_before_of_around (pairwise_placed h) hsplit ha hap)
    simp [Severity.eq_error_of_le hrank] at hearlier

/-- **No unit is milder than one inside it.** The units of a report stand at the places of the units of the tree, and
one that is around another has at least its score and its severity. So where a unit is listed the units around it are
listed before it, whatever the threshold, and a report has an error exactly if a unit that no other one is around is
an error. -/
theorem containing_unit_not_milder (h : ofTree (some root) t .cyclomatic = .ok r) :
    ((r.placed root).map Placed.unit = r ∧ (r.placed root).map Placed.place = root.unitVisits ∧
      ∀ p ∈ r.placed root, Measurement.Describes t .cyclomatic p.place.node p.unit) ∧
    (∀ a ∈ r.placed root, ∀ b ∈ r.placed root, a.place.Around b.place → NotMilder a.unit b.unit) ∧
    (∀ low, (r.placedAbove root low).map Placed.unit = r.problematic low ∧
      ∀ before b after, r.placedAbove root low = before ++ b :: after →
        ∀ a ∈ r.placed root, a.place.Around b.place → a ∈ before) ∧
    ((∃ m ∈ r, m.severity = .error) ↔
      ∃ p ∈ r.placed root, p.unit.severity = .error ∧ ∀ a ∈ r.placed root, ¬ a.place.Around p.place) := by
  refine ⟨⟨map_unit_placed h, map_place_placed h, fun p hp => describes_of_mem_placed h hp⟩, ?_, ?_, ?_⟩
  case refine_1 => exact fun a ha b hb hab => notMilder_of_around h ha hb hab
  case refine_2 =>
    intro low
    refine ⟨map_unit_placedAbove h low, ?_⟩
    intro before b after hsplit a ha hab
    have hb : b ∈ r.placedAbove root low := by rw [hsplit]; simp
    obtain ⟨hmem, hlisted⟩ := List.mem_filter.mp hb
    have habove : a ∈ r.placedAbove root low :=
      List.mem_filter.mpr ⟨ha, isProblematic_of_around h ha hmem hab hlisted⟩
    exact mem_before_of_around ((pairwise_placed h).filter _) hsplit habove hab
  case refine_3 =>
    constructor
    · rintro ⟨m, hm, herror⟩
      exact exists_outermost_error h hm herror
    · rintro ⟨p, hp, herror, -⟩
      refine ⟨p.unit, ?_, herror⟩
      rw [← map_unit_placed h]
      exact List.mem_map_of_mem hp

end Report

def looping : Node := functionAt 1 4 [{ kind := "for_statement" }]

def branchingAround : Node := functionAt 0 5 [{ kind := "if_statement", children := [looping] }]

def layered : Node where
  kind := "module"
  children := [branchingAround]

/-- The outer function counts the loop of the inner one too, and that leads beyond the high threshold. -/
theorem Report.containing_unit_not_milder_layered :
    ∃ r, ofTree (some layered) { low := 1, high := 2 } .cyclomatic = .ok r ∧
      ∃ a b, r.placed layered = [a, b] ∧ a.place.Around b.place ∧ NotMilder a.unit b.unit ∧
        a.unit.severity = .error ∧ b.unit.severity = .warning := by
  have hvisits : layered.unitVisits = [⟨[0], branchingAround⟩, ⟨[0, 1, 0], looping⟩] := rfl
  have hname : ∀ unit ∈ layered.units, unit.HasName := by
    have hunits : layered.units = [branchingAround, looping] := by
      rw [← Node.map_node_filter_visits]
      rfl
    simp [hunits, branchingAround, looping, functionAt_hasName]
  obtain ⟨r, hr⟩ := (@exists_ofTree_iff layered { low := 1, high := 2 } .cyclomatic).mpr hname
  obtain ⟨⟨-, hplaces, hdescribes⟩, hmilder, -, -⟩ := containing_unit_not_milder hr
  rw [hvisits] at hplaces
  obtain ⟨a, rest, hps, ha, hrest⟩ := List.map_eq_cons_iff.mp hplaces
  obtain ⟨b, rfl, hb⟩ := List.map_eq_singleton_iff.mp hrest
  have haround : a.place.Around b.place := by rw [ha, hb]; decide
  have hmem : a ∈ r.placed layered := by simp [hps]
  have hmem' : b ∈ r.placed layered := by simp [hps]
  refine ⟨r, hr, a, b, hps, haround, hmilder a hmem b hmem' haround, ?_, ?_⟩
  · rw [(hdescribes a hmem).severity, ha]
    decide +kernel
  · rw [(hdescribes b hmem').severity, hb]
    decide +kernel

end FunctionMetrics
