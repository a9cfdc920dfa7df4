import FunctionMetrics.Proofs.Syntax.Search
import Mathlib.Data.List.Basic
import Mathlib.Data.List.Lex

/-!
# The walk through a tree

The stack of a walk grows and shrinks, but what has been read, with the trees on the stack behind it, is always the
whole tree in pre-order, and each round reads one node. So the walk ends after as many rounds as there are nodes, and
it comes to each place of the tree once.
-/

namespace FunctionMetrics

/-! ## Rounds -/

/-- A walk on its way: the nodes read so far, and the stack of those still to be read, the next one at its end. -/
structure Walk where
  seen : List Node
  stack : List Node

namespace Walk

def start (root : Node) : Walk := ⟨[], [root]⟩

/-- Reads the node at the end of the stack and puts its children there, the first one last. -/
def next? (w : Walk) : Option Walk :=
  w.stack.getLast?.map fun n => ⟨w.seen ++ [n], w.stack.dropLast ++ n.children.reverse⟩

def after? (w : Walk) : Nat → Option Walk
  | 0 => some w
  | k + 1 => (w.after? k).bind next?

def whole (w : Walk) : List Node := w.seen ++ Node.forest w.stack.reverse

theorem next?_eq_none {w : Walk} : w.next? = none ↔ w.stack = [] := by
  simp [next?]

theorem next?_eq_some {w w' : Walk} :
    w.next? = some w' ↔
      ∃ rest n, w.stack = rest ++ [n] ∧ w'.seen = w.seen ++ [n] ∧ w'.stack = rest ++ n.children.reverse := by
  constructor
  · intro h
    obtain ⟨n, hn, rfl⟩ := Option.map_eq_some_iff.mp h
    obtain ⟨rest, hrest⟩ := List.getLast?_eq_some_iff.mp hn
    exact ⟨rest, n, hrest, rfl, by simp [hrest]⟩
  · rintro ⟨rest, n, hrest, hseen, hstack⟩
    cases w'
    simp_all [next?]

variable {w w' : Walk}

theorem whole_of_next? (h : w.next? = some w') : w'.whole = w.whole := by
  obtain ⟨rest, n, hrest, hseen, hstack⟩ := next?_eq_some.mp h
  unfold whole
  rw [hrest, hseen, hstack]
  simp [Node.forest_cons, Node.forest_append]

theorem length_seen_of_next? (h : w.next? = some w') : w'.seen.length = w.seen.length + 1 := by
  obtain ⟨rest, n, -, hseen, -⟩ := next?_eq_some.mp h
  simp [hseen]

/-- A round of the walk is a step of the recursion that runs it. -/
theorem walkOnto_of_next? (h : w.next? = some w') :
    Node.walkOnto w'.seen.toArray w'.stack.reverse = Node.walkOnto w.seen.toArray w.stack.reverse := by
  obtain ⟨rest, n, hrest, hseen, hstack⟩ := next?_eq_some.mp h
  rw [hrest, hseen, hstack]
  simp [Node.walkOnto]

theorem after?_succ_of_some {k : Nat} {u : Walk} (h : w.after? k = some u) : w.after? (k + 1) = u.next? := by
  simp [after?, h]

theorem stack_eq_nil_iff : w.stack = [] ↔ w.seen.length = w.whole.length := by
  unfold whole
  cases hstack : w.stack.reverse with
  | nil => simp_all [Node.forest]
  | cons n rest =>
    have hne : w.stack ≠ [] := by
      rintro h
      simp [h] at hstack
    simp [hne, Node.forest_cons]

structure Holds (root : Node) (k : Nat) (w : Walk) : Prop where
  whole_eq : w.whole = root.preorder
  length_seen : w.seen.length = k
  walkOnto_eq : Node.walkOnto w.seen.toArray w.stack.reverse = Node.walkOnto #[] [root]

theorem holds_start (root : Node) : Holds root 0 (start root) :=
  ⟨by simp [whole, start, Node.forest], rfl, rfl⟩

theorem Holds.next {root : Node} {k : Nat} (hw : Holds root k w) (h : w.next? = some w') : Holds root (k + 1) w' where
  whole_eq := by rw [whole_of_next? h, hw.whole_eq]
  length_seen := by rw [length_seen_of_next? h, hw.length_seen]
  walkOnto_eq := by rw [walkOnto_of_next? h, hw.walkOnto_eq]

theorem holds_after {root : Node} {k : Nat} (h : (start root).after? k = some w) : Holds root k w := by
  induction k generalizing w with
  | zero =>
    cases h
    exact holds_start root
  | succ k ih =>
    obtain ⟨u, hu, hnext⟩ := Option.bind_eq_some_iff.mp h
    exact (ih hu).next hnext

theorem Holds.seen_eq {root : Node} {k : Nat} (hw : Holds root k w) : w.seen = root.preorder.take k := by
  rw [← hw.whole_eq, ← hw.length_seen, whole, List.take_left]

theorem Holds.ended_iff {root : Node} {k : Nat} (hw : Holds root k w) :
    w.next? = none ↔ k = root.preorder.length := by
  rw [next?_eq_none, stack_eq_nil_iff, hw.length_seen, hw.whole_eq]

theorem isSome_after?_iff {root : Node} {k : Nat} :
    ((start root).after? k).isSome = true ↔ k ≤ root.preorder.length := by
  induction k with
  | zero => simp [after?]
  | succ k ih =>
    cases hk : (start root).after? k with
    | none =>
      rw [hk] at ih
      simp only [after?, hk, Option.bind_none, Option.isSome_none, Bool.false_eq_true, false_iff] at ih ⊢
      omega
    | some w =>
      rw [hk] at ih
      have hended := (holds_after hk).ended_iff
      rw [after?_succ_of_some hk, ← Option.ne_none_iff_isSome, Ne, hended]
      simp only [Option.isSome_some, true_iff] at ih
      omega

end Walk

/-! ## Places -/

/-- A node with the way to it from the root: each number says which child is next. -/
structure Visit where
  path : List Nat
  node : Node

def Visit.through (i : Nat) (v : Visit) : Visit := ⟨i :: v.path, v.node⟩

namespace Node

def reach? (root : Node) : List Nat → Option Node
  | [] => some root
  | i :: path => root.children[i]?.bind fun c => c.reach? path

mutual

def visits : Node → List Visit
  | ⟨kind, range, text, children⟩ => ⟨[], ⟨kind, range, text, children⟩⟩ :: visitsFrom 0 children

/-- The places of trees that stand in a row, the first of them as child of number `i`. -/
def visitsFrom (i : Nat) : List Node → List Visit
  | [] => []
  | n :: rest => n.visits.map (Visit.through i) ++ visitsFrom (i + 1) rest

end

theorem visits_eq (n : Node) : n.visits = ⟨[], n⟩ :: visitsFrom 0 n.children := by
  cases n; rw [visits]

theorem mem_visitsFrom {ns : List Node} {i : Nat} {v : Visit} :
    v ∈ visitsFrom i ns ↔ ∃ (j : Nat) (c : Node), ns[j]? = some c ∧ ∃ u ∈ c.visits, v = u.through (i + j) := by
  induction ns generalizing i with
  | nil => simp [visitsFrom]
  | cons n rest ih =>
    rw [visitsFrom, List.mem_append, ih, List.mem_map]
    constructor
    · rintro (⟨u, hu, rfl⟩ | ⟨j, c, hc, u, hu, rfl⟩)
      · exact ⟨0, n, rfl, u, hu, rfl⟩
      · exact ⟨j + 1, c, hc, u, hu, by rw [Nat.add_right_comm, Nat.add_assoc]⟩
    · rintro ⟨j, c, hc, u, hu, rfl⟩
      cases j with
      | zero =>
        cases hc
        exact .inl ⟨u, hu, rfl⟩
      | succ j => exact .inr ⟨j, c, hc, u, hu, by rw [Nat.add_right_comm, Nat.add_assoc]⟩

theorem mem_visits {root : Node} {v : Visit} : v ∈ root.visits ↔ root.reach? v.path = some v.node := by
  induction root using inductionOn generalizing v with
  | step root ih =>
    rw [visits_eq, List.mem_cons, mem_visitsFrom]
    obtain ⟨path, n⟩ := v
    cases path with
    | nil => simp [reach?, Visit.through, eq_comm]
    | cons i path =>
      simp only [reach?, Option.bind_eq_some_iff, Visit.through, Visit.mk.injEq, List.cons.injEq, reduceCtorEq,
        false_and, false_or, Nat.zero_add]
      constructor
      · rintro ⟨j, c, hc, u, hu, ⟨rfl, rfl⟩, rfl⟩
        exact ⟨c, hc, (ih c (List.mem_of_getElem? hc)).mp hu⟩
      · rintro ⟨c, hc, hn⟩
        exact ⟨i, c, hc, ⟨path, n⟩, (ih c (List.mem_of_getElem? hc)).mpr hn, ⟨rfl, rfl⟩, rfl⟩

theorem map_node_visitsFrom {ns : List Node} (h : ∀ n ∈ ns, n.visits.map Visit.node = n.preorder) (i : Nat) :
    (visitsFrom i ns).map Visit.node = forest ns := by
  induction ns generalizing i with
  | nil => rfl
  | cons n rest ih =>
    have hthrough : (n.visits.map (Visit.through i)).map Visit.node = n.preorder := by
      rw [List.map_map, ← h n (by simp)]
      rfl
    rw [visitsFrom, List.map_append, hthrough, ih (fun m hm => h m (by simp [hm])), forest]

theorem map_node_visits (root : Node) : root.visits.map Visit.node = root.preorder := by
  induction root using inductionOn with
  | step root ih => rw [visits_eq, List.map_cons, map_node_visitsFrom ih, preorder_eq]

theorem pairwise_visitsFrom {ns : List Node} (h : ∀ n ∈ ns, n.visits.Pairwise fun u v => u.path < v.path) (i : Nat) :
    (visitsFrom i ns).Pairwise fun u v => u.path < v.path := by
  induction ns generalizing i with
  | nil => exact .nil
  | cons n rest ih =>
    rw [visitsFrom, List.pairwise_append, List.pairwise_map]
    refine ⟨?_, ih (fun m hm => h m (by simp [hm])) (i + 1), ?_⟩
    · apply (h n (by simp)).imp
      intro u v huv
      exact List.cons_lt_cons_iff.mpr (.inr ⟨rfl, huv⟩)
    · -- Below different children the first numbers of the paths differ already.
      intro u hu v hv
      obtain ⟨u, -, rfl⟩ := List.mem_map.mp hu
      obtain ⟨j, c, -, v, -, rfl⟩ := mem_visitsFrom.mp hv
      exact List.cons_lt_cons_iff.mpr (.inl (by omega))

theorem pairwise_visits (root : Node) : root.visits.Pairwise fun u v => u.path < v.path := by
  induction root using inductionOn with
  | step root ih =>
    rw [visits_eq, List.pairwise_cons]
    refine ⟨?_, pairwise_visitsFrom ih 0⟩
    intro v hv
    obtain ⟨j, c, -, v, -, rfl⟩ := mem_visitsFrom.mp hv
    exact List.nil_lt_cons _ _

/-! ## Units by recursion -/

mutual

/-- A unit of a tree is its root or a unit of a child; a root that is a unit does not end the search. -/
def collectUnits : Node → List Node
  | ⟨kind, range, text, children⟩ =>
    if isUnit ⟨kind, range, text, children⟩ then ⟨kind, range, text, children⟩ :: collectUnitsOf children
    else collectUnitsOf children

def collectUnitsOf : List Node → List Node
  | [] => []
  | n :: rest => n.collectUnits ++ collectUnitsOf rest

end

theorem collectUnits_eq (n : Node) :
    n.collectUnits = if n.isUnit then n :: collectUnitsOf n.children else collectUnitsOf n.children := by
  cases n; rw [collectUnits]

theorem collectUnitsOf_eq {ns : List Node} (h : ∀ n ∈ ns, n.collectUnits = n.preorder.filter isUnit) :
    collectUnitsOf ns = (forest ns).filter isUnit := by
  induction ns with
  | nil => rfl
  | cons n rest ih =>
    rw [collectUnitsOf, forest, List.filter_append, h n (by simp), ih fun m hm => h m (by simp [hm])]

theorem collectUnits_eq_units (root : Node) : root.collectUnits = root.units := by
  rw [units_eq_filter_preorder]
  induction root using inductionOn with
  | step root ih => rw [collectUnits_eq, preorder_eq, List.filter_cons, collectUnitsOf_eq ih]

theorem map_node_filter_visits (root : Node) :
    (root.visits.filter fun v => v.node.isUnit).map Visit.node = root.units := by
  rw [units_eq_filter_preorder, ← map_node_visits, List.filter_map]
  rfl

/-! ## The walk -/

/-- **The walk reads the tree.** Round by round it reads the nodes that the recursion lists, and after the last one it
ends. It comes to each place of the tree once, in the order of the paths. Below the root are all nodes but the first,
and the units are those that the recursion collects, each before the units inside it. -/
theorem walk_reads_tree (root : Node) :
    (∀ k, ((Walk.start root).after? k).isSome = true ↔ k ≤ root.preorder.length) ∧
    (∀ k w, (Walk.start root).after? k = some w →
      w.seen = root.preorder.take k ∧ (w.next? = none ↔ k = root.preorder.length) ∧
      (walkOnto w.seen.toArray w.stack.reverse).toList = root.nodes) ∧
    root.nodes = root.preorder ∧ root.descendants = root.nodes.tail ∧
    (∃ visits : List Visit, visits.map Visit.node = root.nodes ∧ (visits.Pairwise fun u v => u.path < v.path) ∧
      ∀ v, v ∈ visits ↔ root.reach? v.path = some v.node) ∧
    root.units = root.collectUnits ∧
    ∃ visits : List Visit, visits.map Visit.node = root.units ∧
      (visits.Pairwise fun u v => u.path < v.path ∧ ¬ v.path <+: u.path) ∧
      ∀ v, v ∈ visits ↔ root.reach? v.path = some v.node ∧ v.node.isUnit = true := by
  refine ⟨fun k => Walk.isSome_after?_iff, ?_, nodes_eq_preorder root, ?_, ?_, (collectUnits_eq_units root).symm, ?_⟩
  case refine_1 =>
    intro k w hw
    have hholds := Walk.holds_after hw
    exact ⟨hholds.seen_eq, hholds.ended_iff, by rw [hholds.walkOnto_eq]; rfl⟩
  case refine_2 => rw [nodes_eq_cons, List.tail_cons]
  case refine_3 =>
    refine ⟨root.visits, ?_, pairwise_visits root, fun v => mem_visits⟩
    rw [map_node_visits, nodes_eq_preorder]
  case refine_4 =>
    refine ⟨_, map_node_filter_visits root, ?_, ?_⟩
    · apply ((pairwise_visits root).filter _).imp
      intro u v huv
      refine ⟨huv, ?_⟩
      rintro ⟨more, hmore⟩
      -- A path never comes after one that leads further.
      rw [← hmore] at huv
      exact List.le_append_left huv
    · intro v
      rw [List.mem_filter, mem_visits]

end Node

end FunctionMetrics
