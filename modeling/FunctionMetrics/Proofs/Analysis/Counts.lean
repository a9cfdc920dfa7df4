import FunctionMetrics.Proofs.Analysis.Score
import FunctionMetrics.Proofs.Number.Nearest
import FunctionMetrics.Proofs.Syntax.Search
import Mathlib.Tactic.NormNum

/-!
# What a score counts

A score counts the nodes below a unit by their kinds and nothing else. Each partial sum is a whole number of halves, so
none of them is rounded, and the order in which the nodes are met does not matter.
-/

namespace FunctionMetrics

open Binary64

/-! ## Kinds -/

def branchKinds : List String :=
  ["if_statement", "elif_clause", "else_clause", "for_statement", "foreach_statement", "case_statement",
   "boolean_operator"]

def expressionKinds : List String := ["binary_expression"]

def countOf (kinds : List String) (ns : List Node) : Nat := ns.countP fun n => kinds.contains n.kind

theorem halvesOf_eq (kind : String) :
    halvesOf kind = 2 * (if branchKinds.contains kind then 1 else 0) + if expressionKinds.contains kind then 1 else 0 := by
  by_cases hbranch : kind ∈ branchKinds
  · simp only [branchKinds, List.mem_cons, List.not_mem_nil, or_false] at hbranch
    rcases hbranch with rfl | rfl | rfl | rfl | rfl | rfl | rfl <;> decide
  by_cases hexpression : kind ∈ expressionKinds
  · rw [List.mem_singleton.mp hexpression]
    decide
  · have hnone : Construct.ofKind? kind = none := by
      apply List.find?_eq_none.mpr
      intro c _ hc
      have hkind : c.kind = kind := of_decide_eq_true hc
      subst hkind
      cases c <;> simp [Construct.kind, branchKinds, expressionKinds] at hbranch hexpression
    simp [halvesOf, hnone, hbranch, hexpression]

theorem halvesSum_eq_countOf (ns : List Node) :
    halvesSum ns = 2 * countOf branchKinds ns + countOf expressionKinds ns := by
  induction ns with
  | nil => rfl
  | cons n rest ih =>
    have hn := halvesOf_eq n.kind
    simp only [halvesSum, countOf, List.map_cons, List.sum_cons, List.countP_cons] at ih ⊢
    omega

theorem halvesSum_eq_of_perm {a b : List Node} (h : (a.map Node.kind).Perm (b.map Node.kind)) :
    halvesSum a = halvesSum b := by
  have hmap : ∀ ns : List Node, ns.map (fun n => halvesOf n.kind) = (ns.map Node.kind).map halvesOf := by simp
  rw [halvesSum, halvesSum, hmap, hmap]
  exact (h.map halvesOf).sum_eq

theorem value_of_isHalves_countOf {x : Binary64} {ns : List Node} (h : x.IsHalves (halvesSum ns)) :
    x.value = countOf branchKinds ns + countOf expressionKinds ns / 2 := by
  rw [h.value_eq, halvesSum_eq_countOf]
  push_cast
  ring

/-! ## Scores -/

/-- **A score counts kinds.** Below a unit of fewer than `2 ^ 51` nodes each branch counts one and each binary
expression a half, beside the one for the unit, and no sum on the way is rounded. So the score is a number of halves,
one at least; neither the kind of the unit nor the order and the nesting of the nodes below it play a part. -/
theorem complexity_counts {unit : Node} (h : (Node.forest unit.children).length < 2 ^ 51) :
    (complexity unit).isFinite = true ∧
    (complexity unit).value =
      1 + (countOf branchKinds (Node.forest unit.children) + countOf expressionKinds (Node.forest unit.children) / 2) ∧
    (∀ before after, unit.descendants = before ++ after →
      (before.foldl (fun sum n => sum + weightOf n.kind) .zero).isFinite = true ∧
      (before.foldl (fun sum n => sum + weightOf n.kind) .zero).value =
        countOf branchKinds before + countOf expressionKinds before / 2) ∧
    (∃ k : Nat, 2 ≤ k ∧ (complexity unit).value = k / 2) ∧
    (∀ kind, complexity { unit with kind } = complexity unit) ∧
    ∀ other : Node, ((Node.forest other.children).map Node.kind).Perm ((Node.forest unit.children).map Node.kind) →
      complexity other = complexity unit := by
  rw [← Node.descendants_eq_forest] at h ⊢
  have hunit := complexity_isHalves unit h
  have hvalue := complexity_value unit h
  have hperm : ∀ other : Node, (other.descendants.map Node.kind).Perm (unit.descendants.map Node.kind) →
      complexity other = complexity unit := by
    intro other hother
    have hlength : other.descendants.length = unit.descendants.length := by simpa using hother.length_eq
    have hother' := complexity_isHalves other (by rw [hlength]; exact h)
    rw [halvesSum_eq_of_perm hother] at hother'
    exact hother'.unique hunit
  refine ⟨complexity_isFinite unit, ?_, ?_, ⟨_, by omega, hunit.value_eq⟩, ?_, ?_⟩
  case refine_1 =>
    rw [hvalue, weightSum_eq, halvesSum_eq_countOf]
    push_cast
    ring
  case refine_2 =>
    intro before after hsplit
    have hlength : before.length ≤ unit.descendants.length := by rw [hsplit, List.length_append]; omega
    have hhalves := halvesSum_le before
    have hsum := foldl_isHalves before isHalves_zero (by omega)
    rw [Nat.zero_add] at hsum
    refine ⟨?_, value_of_isHalves_countOf hsum⟩
    obtain ⟨m, hm, -⟩ := hsum
    rw [hm]
    rfl
  case refine_3 =>
    intro kind
    apply hperm
    rw [Node.descendants_eq_forest, Node.descendants_eq_forest]
  case refine_4 =>
    intro other hother
    rw [← Node.descendants_eq_forest] at hother
    exact hperm other hother

def mixed : Node where
  kind := "function_definition"
  children :=
    [{ kind := "if_statement"
       children := [{ kind := "binary_expression" }, { kind := "block", children := [{ kind := "for_statement" }] }] },
     { kind := "function_definition", children := [{ kind := "boolean_operator" }] }]

def parentOf (kind : String) (below : Node) : Node := { kind, children := [below] }

def chained : Node :=
  parentOf "method_declaration" (parentOf "boolean_operator" (parentOf "block" (parentOf "function_definition"
    (parentOf "binary_expression" (parentOf "for_statement" { kind := "if_statement" })))))

theorem complexity_counts_mixed :
    (Node.forest mixed.children).length < 2 ^ 51 ∧ (complexity mixed).value = 9 / 2 ∧
      complexity chained = complexity mixed := by
  have hfew : (Node.forest mixed.children).length < 2 ^ 51 := by decide +kernel
  obtain ⟨-, hvalue, -, -, -, hother⟩ := complexity_counts hfew
  have hbranches : countOf branchKinds (Node.forest mixed.children) = 3 := by decide +kernel
  have hexpressions : countOf expressionKinds (Node.forest mixed.children) = 1 := by decide +kernel
  refine ⟨hfew, ?_, hother chained (by decide +kernel)⟩
  rw [hvalue, hbranches, hexpressions]
  norm_num

end FunctionMetrics
