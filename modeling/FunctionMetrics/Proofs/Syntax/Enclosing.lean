import FunctionMetrics.Proofs.Syntax.Search
import Mathlib.Data.List.Flatten
import Mathlib.Data.List.Basic

/-!
# Nodes around a node

The pre-order names each node with the nodes around it. These come before it, and where each node of a tree holds the
rows of its children, each of them spans all of its rows.
-/

namespace FunctionMetrics

/-- A node at its place in a tree, with the nodes around it from its parent to the root. -/
structure Occurrence where
  above : List Node
  node : Node

namespace Node

variable {root : Node}

/-! ## Occurrences -/

mutual

def occurrencesFrom (above : List Node) : Node → List Occurrence
  | ⟨kind, range, text, children⟩ =>
    ⟨above, ⟨kind, range, text, children⟩⟩ :: occurrencesBelow (⟨kind, range, text, children⟩ :: above) children

def occurrencesBelow (above : List Node) : List Node → List Occurrence
  | [] => []
  | n :: rest => occurrencesFrom above n ++ occurrencesBelow above rest

end

def occurrences (root : Node) : List Occurrence := root.occurrencesFrom []

def unitOccurrences (root : Node) : List Occurrence := root.occurrences.filter fun x => x.node.isUnit

theorem occurrencesBelow_eq (above ns : List Node) : occurrencesBelow above ns = ns.flatMap (occurrencesFrom above) := by
  induction ns with
  | nil => rfl
  | cons n rest ih => rw [occurrencesBelow, List.flatMap_cons, ih]

theorem occurrencesFrom_eq (above : List Node) (n : Node) :
    n.occurrencesFrom above = ⟨above, n⟩ :: n.children.flatMap (occurrencesFrom (n :: above)) := by
  cases n
  rw [occurrencesFrom, occurrencesBelow_eq]

theorem map_node_occurrencesFrom (above : List Node) (root : Node) :
    (root.occurrencesFrom above).map Occurrence.node = root.preorder := by
  induction root using inductionOn generalizing above with
  | step root ih =>
    rw [occurrencesFrom_eq, preorder_eq_flatMap, List.map_cons, List.map_flatMap]
    congr 1
    exact List.flatMap_congr fun c hc => ih c hc (root :: above)

theorem map_node_unitOccurrences (root : Node) : root.unitOccurrences.map Occurrence.node = root.units := by
  rw [units_eq_filter_preorder, ← map_node_occurrencesFrom [] root, List.filter_map]; rfl

/-! ## The nodes above come first -/

/-- What is above each occurrence is among the nodes `seen` or those before it. -/
def Led (seen : List Node) : List Occurrence → Prop
  | [] => True
  | x :: rest => (∀ u ∈ x.above, u ∈ seen) ∧ Led (x.node :: seen) rest

theorem Led.mono {xs : List Occurrence} {seen seen' : List Node} (h : Led seen xs) (hseen : ∀ u ∈ seen, u ∈ seen') :
    Led seen' xs := by
  induction xs generalizing seen seen' with
  | nil => trivial
  | cons x rest ih =>
    refine ⟨fun u hu => hseen u (h.1 u hu), ih h.2 ?_⟩
    intro u hu
    rcases List.mem_cons.mp hu with rfl | hu
    · exact List.mem_cons_self
    · exact List.mem_cons_of_mem _ (hseen u hu)

theorem Led.append {xs ys : List Occurrence} {seen : List Node} (hxs : Led seen xs) (hys : Led seen ys) :
    Led seen (xs ++ ys) := by
  induction xs generalizing seen with
  | nil => exact hys
  | cons x rest ih => exact ⟨hxs.1, ih hxs.2 (hys.mono fun u hu => List.mem_cons_of_mem _ hu)⟩

theorem led_occurrencesFrom (above : List Node) (root : Node) : Led above (root.occurrencesFrom above) := by
  induction root using inductionOn generalizing above with
  | step root ih =>
    rw [occurrencesFrom_eq]
    refine ⟨fun u hu => hu, ?_⟩
    have hchildren : ∀ cs : List Node, (∀ c ∈ cs, c ∈ root.children) →
        Led (root :: above) (cs.flatMap (occurrencesFrom (root :: above))) := by
      intro cs hcs
      induction cs with
      | nil => trivial
      | cons c rest ihrest =>
        exact (ih c (hcs c (by simp)) _).append (ihrest fun d hd => hcs d (by simp [hd]))
    exact hchildren _ fun c hc => hc

theorem Led.mem_before {before after : List Occurrence} {x : Occurrence} {seen : List Node}
    (h : Led seen (before ++ x :: after)) {u : Node} (hu : u ∈ x.above) : u ∈ seen ∨ u ∈ before.map Occurrence.node := by
  induction before generalizing seen with
  | nil => exact .inl (h.1 u hu)
  | cons y rest ih =>
    rcases ih h.2 with hmem | hmem
    · rcases List.mem_cons.mp hmem with rfl | hmem
      · exact .inr (by simp)
      · exact .inl hmem
    · exact .inr (by simp [hmem])

end Node

/-! ## Rows -/

namespace Range

variable {a b c : Range}

def RowsWithin (a b : Range) : Prop := b.start.row ≤ a.start.row ∧ a.stop.row ≤ b.stop.row

instance (a b : Range) : Decidable (a.RowsWithin b) :=
  inferInstanceAs (Decidable (b.start.row ≤ a.start.row ∧ a.stop.row ≤ b.stop.row))

theorem RowsWithin.refl (a : Range) : a.RowsWithin a := ⟨Int.le_refl _, Int.le_refl _⟩

theorem RowsWithin.trans (hab : a.RowsWithin b) (hbc : b.RowsWithin c) : a.RowsWithin c :=
  ⟨Int.le_trans hbc.1 hab.1, Int.le_trans hab.2 hbc.2⟩

theorem spansRow_iff {row : Int} : a.spansRow row = true ↔ a.start.row ≤ row ∧ row ≤ a.stop.row := decide_eq_true_iff

theorem RowsWithin.spansRow (h : a.RowsWithin b) {row : Int} (hrow : a.spansRow row = true) : b.spansRow row = true := by
  rw [spansRow_iff] at hrow ⊢
  exact ⟨Int.le_trans h.1 hrow.1, Int.le_trans hrow.2 h.2⟩

end Range

namespace Node

/-- No node ends in a row before the one it starts in, and each holds the rows of its children. -/
def RowsNested (root : Node) : Prop :=
  ∀ n ∈ root.nodes, n.range.start.row ≤ n.range.stop.row ∧ ∀ c ∈ n.children, c.range.RowsWithin n.range

namespace RowsNested

variable {root n c : Node}

theorem child (h : root.RowsNested) (hc : c ∈ root.children) : c.RowsNested :=
  fun n hn => h n (mem_nodes_below_child hc hn)

theorem children_rowsWithin (h : root.RowsNested) (hc : c ∈ root.children) : c.range.RowsWithin root.range :=
  (h root (mem_nodes_self root)).2 c hc

theorem start_le_stop (h : root.RowsNested) (hn : n ∈ root.nodes) : n.range.start.row ≤ n.range.stop.row := (h n hn).1

theorem of_mem (h : root.RowsNested) (hn : n ∈ root.nodes) : n.RowsNested := by
  rw [nodes_eq_preorder] at hn
  induction root using inductionOn with
  | step root ih =>
    rcases mem_preorder.mp hn with rfl | ⟨c, hc, hn⟩
    · exact h
    · exact ih c hc (h.child hc) hn

theorem rowsWithin (h : root.RowsNested) (hn : n ∈ root.nodes) : n.range.RowsWithin root.range := by
  apply to_root_of_to_parent (R := fun a b => a.range.RowsWithin b.range) _ _ _ hn
  · exact fun a => .refl a.range
  · exact fun hab hbc => hab.trans hbc
  · exact fun m hm c hc => (h m hm).2 c hc

theorem rowsWithin_above (h : root.RowsNested) {above : List Node} (habove : ∀ u ∈ above, root.range.RowsWithin u.range)
    {x : Occurrence} (hx : x ∈ root.occurrencesFrom above) {u : Node} (hu : u ∈ x.above) :
    x.node.range.RowsWithin u.range := by
  induction root using inductionOn generalizing above with
  | step root ih =>
    rw [occurrencesFrom_eq, List.mem_cons, List.mem_flatMap] at hx
    rcases hx with rfl | ⟨c, hc, hx⟩
    · exact habove u hu
    · refine ih c hc (h.child hc) ?_ hx
      intro u hu
      rcases List.mem_cons.mp hu with rfl | hu
      · exact h.children_rowsWithin hc
      · exact (h.children_rowsWithin hc).trans (habove u hu)

end RowsNested

/-! ## The first unit of a row -/

theorem Led.exists_unit_before {xs before after : List Occurrence} {x : Occurrence} (h : Led [] xs)
    (hunits : (xs.filter fun y => y.node.isUnit) = before ++ x :: after) {u : Node} (hu : u ∈ x.above)
    (hunit : u.isUnit = true) : ∃ y ∈ before, y.node = u := by
  obtain ⟨front, back, rfl, rfl, hback⟩ := List.filter_eq_append_iff.mp hunits
  obtain ⟨skipped, rest, rfl, hskipped, -, -⟩ := List.filter_eq_cons_iff.mp hback
  rw [← List.append_assoc] at h
  rcases h.mem_before hu with hmem | hmem
  · cases hmem
  · obtain ⟨y, hy, rfl⟩ := List.mem_map.mp hmem
    rcases List.mem_append.mp hy with hy | hy
    · exact ⟨y, List.mem_filter.mpr ⟨hy, hunit⟩, rfl⟩
    · exact absurd hunit (hskipped y hy)

theorem not_isUnit_of_first {root : Node} (h : root.RowsNested) {row : Int} {before after : List Occurrence} {x : Occurrence}
    (hunits : root.unitOccurrences = before ++ x :: after)
    (hbefore : ∀ y ∈ before, y.node.range.spansRow row = false) (hx : x.node.range.spansRow row = true) :
    ∀ u ∈ x.above, u.isUnit = false := by
  intro u hu
  by_contra hunit
  rw [Bool.not_eq_false] at hunit
  obtain ⟨y, hy, rfl⟩ := (led_occurrencesFrom [] root).exists_unit_before hunits hu hunit
  have hmem : x ∈ root.occurrencesFrom [] := by
    have hx : x ∈ root.unitOccurrences := by rw [hunits]; simp
    exact List.mem_of_mem_filter hx
  have hwithin := h.rowsWithin_above (by simp) hmem hu
  have hspans := hwithin.spansRow hx
  rw [hbefore y hy] at hspans
  cases hspans

theorem not_isUnit_of_first_getElem {root : Node} (h : root.RowsNested) {row : Int} {j : Nat}
    (hj : j < root.unitOccurrences.length)
    (hbefore : ∀ (k : Nat) (hk : k < j), root.unitOccurrences[k].node.range.spansRow row = false)
    (hspans : root.unitOccurrences[j].node.range.spansRow row = true) :
    ∀ u ∈ root.unitOccurrences[j].above, u.isUnit = false := by
  have hsplit : root.unitOccurrences =
      root.unitOccurrences.take j ++ root.unitOccurrences[j] :: root.unitOccurrences.drop (j + 1) := by
    rw [← List.drop_eq_getElem_cons hj, List.take_append_drop]
  apply not_isUnit_of_first h hsplit _ hspans
  intro y hy
  obtain ⟨k, hk, rfl⟩ := List.mem_take_iff_getElem.mp hy
  exact hbefore k (by omega)

end Node

end FunctionMetrics
