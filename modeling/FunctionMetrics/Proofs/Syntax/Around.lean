import FunctionMetrics.Proofs.Syntax.Walk

/-!
# Places around a place

A place is around another one if it is on the way there. It is then walked to earlier, and the nodes below it hold those
of the other one, which stand in one piece among them.
-/

namespace FunctionMetrics

/-- The first place is on the way to the second one, and not the same. -/
def Visit.Around (u v : Visit) : Prop := u.path <+: v.path ∧ u.path ≠ v.path

instance (u v : Visit) : Decidable (u.Around v) := inferInstanceAs (Decidable (u.path <+: v.path ∧ u.path ≠ v.path))

theorem Visit.Around.path_lt {u v : Visit} (h : u.Around v) : u.path < v.path := by
  obtain ⟨⟨more, hmore⟩, hne⟩ := h
  have hle : u.path ≤ u.path ++ more := not_lt.mp List.le_append_left
  rw [hmore] at hle
  exact lt_of_le_of_ne hle hne

namespace Node

variable {root n : Node} {u v : Visit}

/-! ## Ways on from a place -/

theorem reach?_append (root : Node) (way more : List Nat) :
    root.reach? (way ++ more) = (root.reach? way).bind fun n => n.reach? more := by
  induction way generalizing root with
  | nil => rfl
  | cons i way ih =>
    simp only [List.cons_append, reach?, ih]
    cases root.children[i]? <;> rfl

theorem mem_preorder_of_reach? {way : List Nat} (h : root.reach? way = some n) : n ∈ root.preorder := by
  have hvisit : (⟨way, n⟩ : Visit) ∈ root.visits := mem_visits.mpr h
  rw [← map_node_visits]
  exact List.mem_map_of_mem hvisit

theorem mem_forest_of_around (hu : root.reach? u.path = some u.node) (hv : root.reach? v.path = some v.node)
    (h : u.Around v) : v.node ∈ forest u.node.children := by
  obtain ⟨⟨more, hmore⟩, hne⟩ := h
  rw [← hmore, reach?_append, hu, Option.bind_some] at hv
  cases more with
  | nil => exact absurd (by simpa using hmore) hne
  | cons i more =>
    obtain ⟨c, hc, hreach⟩ := Option.bind_eq_some_iff.mp hv
    rw [forest_eq_flatMap, List.mem_flatMap]
    exact ⟨c, List.mem_of_getElem? hc, mem_preorder_of_reach? hreach⟩

/-! ## Nodes in one piece -/

theorem preorder_within (h : n ∈ root.preorder) : n.preorder <:+: root.preorder := by
  induction root using inductionOn with
  | step root ih =>
    rcases mem_preorder.mp h with rfl | ⟨c, hc, hn⟩
    · exact List.infix_rfl
    · have hchild : c.preorder <:+: forest root.children := by
        rw [forest_eq_flatMap]
        exact List.infix_flatMap_of_mem hc preorder
      rw [preorder_eq root]
      exact (ih c hc hn).trans (List.infix_cons hchild)

theorem exists_descendants_eq (h : n ∈ forest root.children) :
    ∃ before after, root.descendants = before ++ n :: n.descendants ++ after := by
  rw [forest_eq_flatMap, List.mem_flatMap] at h
  obtain ⟨c, hc, hn⟩ := h
  have hinfix : n.preorder <:+: forest root.children := by
    rw [forest_eq_flatMap]
    exact (preorder_within hn).trans (List.infix_flatMap_of_mem hc preorder)
  obtain ⟨before, after, hsplit⟩ := hinfix
  refine ⟨before, after, ?_⟩
  rw [descendants_eq_forest, descendants_eq_forest, ← hsplit, preorder_eq n]

/-! ## Units at their places -/

def unitVisits (root : Node) : List Visit := root.visits.filter fun v => v.node.isUnit

theorem mem_unitVisits : v ∈ root.unitVisits ↔ root.reach? v.path = some v.node ∧ v.node.isUnit = true := by
  rw [unitVisits, List.mem_filter, mem_visits]

theorem pairwise_unitVisits (root : Node) : root.unitVisits.Pairwise fun u v => u.path < v.path :=
  (pairwise_visits root).filter _

end Node

end FunctionMetrics
