import FunctionMetrics.Analysis.Metric
import FunctionMetrics.Proofs.Number.Exact
import FunctionMetrics.Proofs.Outcome

/-!
# Scores

In a tree of fewer than `2 ^ 51` nodes a score is exactly one more than the weights of the nodes below a unit. In any
tree it is finite, so it can always be written.
-/

namespace FunctionMetrics

open Binary64

/-! ## Weights -/

def Construct.halves : Construct → Nat
  | .binaryExpression => 1
  | _ => 2

def halvesOf (kind : String) : Nat :=
  match Construct.ofKind? kind with
  | some c => c.halves
  | none => 0

theorem Construct.weight_isHalves (c : Construct) : c.weight.IsHalves c.halves := by
  cases c <;> first | exact isHalves_one | exact isHalves_half

theorem weightOf_isHalves (kind : String) : (weightOf kind).IsHalves (halvesOf kind) := by
  unfold weightOf halvesOf
  cases Construct.ofKind? kind with
  | none => exact isHalves_zero
  | some c => exact c.weight_isHalves

theorem halvesOf_le (kind : String) : halvesOf kind ≤ 2 := by
  unfold halvesOf
  cases Construct.ofKind? kind with
  | none => decide
  | some c => cases c <;> decide

theorem weightOf_atMost (kind : String) : (weightOf kind).AtMost Magnitude.unitsInOne := by
  unfold weightOf
  cases Construct.ofKind? kind with
  | none => exact atMost_zero
  | some c => cases c <;> first | exact atMost_one | exact atMost_half

/-! ## Sums of weights -/

def weightSum (ns : List Node) : ℚ := (ns.map fun n => (weightOf n.kind).value).sum

def halvesSum (ns : List Node) : Nat := (ns.map fun n => halvesOf n.kind).sum

theorem halvesSum_le (ns : List Node) : halvesSum ns ≤ 2 * ns.length := by
  induction ns with
  | nil => exact Nat.le_refl _
  | cons n rest ih =>
    have := halvesOf_le n.kind
    simp only [halvesSum, List.map_cons, List.sum_cons, List.length_cons] at ih ⊢
    omega

theorem weightSum_eq (ns : List Node) : weightSum ns = halvesSum ns / 2 := by
  induction ns with
  | nil => simp [weightSum, halvesSum]
  | cons n rest ih =>
    have hn := (weightOf_isHalves n.kind).value_eq
    simp only [weightSum, halvesSum, List.map_cons, List.sum_cons] at ih ⊢
    rw [ih, hn]
    push_cast
    ring

theorem weightSum_append (a b : List Node) : weightSum (a ++ b) = weightSum a + weightSum b := by
  simp [weightSum]

theorem foldl_isHalves (ns : List Node) {x : Binary64} {k : Nat} (hx : x.IsHalves k)
    (h : k + halvesSum ns < 2 ^ 53) :
    (ns.foldl (fun sum n => sum + weightOf n.kind) x).IsHalves (k + halvesSum ns) := by
  -- The sum so far is a whole number of halves, and no step is rounded while it stays below the bound.
  induction ns generalizing x k with
  | nil => exact hx
  | cons n rest ih =>
    simp only [halvesSum, List.map_cons, List.sum_cons] at h ih ⊢
    rw [List.foldl_cons, ← Nat.add_assoc]
    exact ih (hx.add (weightOf_isHalves n.kind) (by omega)) (by omega)

theorem foldl_atMost (ns : List Node) {x : Binary64} (hx : x.AtMost (2 ^ 53 * Magnitude.unitsInOne)) :
    (ns.foldl (fun sum n => sum + weightOf n.kind) x).AtMost (2 ^ 53 * Magnitude.unitsInOne) := by
  induction ns generalizing x with
  | nil => exact hx
  | cons n rest ih => exact ih (hx.add (weightOf_atMost n.kind) (Nat.le_refl _) (Nat.le_refl _))

/-! ## Complexity -/

theorem complexity_isHalves (unit : Node) (h : unit.descendants.length < 2 ^ 51) :
    (complexity unit).IsHalves (2 + halvesSum unit.descendants) := by
  have hsum := halvesSum_le unit.descendants
  have hfold := foldl_isHalves unit.descendants isHalves_zero (by omega)
  rw [Nat.zero_add] at hfold
  exact isHalves_one.add hfold (by omega)

theorem complexity_value (unit : Node) (h : unit.descendants.length < 2 ^ 51) :
    (complexity unit).value = 1 + weightSum unit.descendants := by
  rw [(complexity_isHalves unit h).value_eq, weightSum_eq]
  push_cast
  ring

theorem complexity_of_weightless {unit : Node} (h : ∀ n ∈ unit.descendants, weightOf n.kind = .zero) :
    complexity unit = .one := by
  have hsum : unit.descendants.foldl (fun sum n => sum + weightOf n.kind) Binary64.zero = .zero := by
    generalize unit.descendants = ns at h
    have hzero : Binary64.zero + Binary64.zero = .zero := by decide
    induction ns with
    | nil => rfl
    | cons n rest ih =>
      rw [List.foldl_cons, h n (by simp), hzero]
      exact ih fun n hn => h n (by simp [hn])
  rw [complexity, hsum]
  decide

theorem complexity_isFinite (unit : Node) : (complexity unit).isFinite = true := by
  have hzero : zero.AtMost (2 ^ 53 * Magnitude.unitsInOne) := atMost_zero.mono (by omega)
  have hsum := foldl_atMost unit.descendants hzero
  exact (atMost_one.add hsum (by omega) (by omega)).isFinite

/-! ## Text -/

theorem scoreText_of_isFinite {x : Binary64} (h : x.isFinite = true) : ∃ s, scoreText (.float x) = .ok s := by
  cases x with
  | nan | infinity => cases h
  | finite negative m =>
    simp only [scoreText]
    split
    · exact ⟨_, rfl⟩
    · exact ⟨_, rfl⟩

end FunctionMetrics
