import FunctionMetrics.Syntax.Unit

/-! # Nodes of a tree

What holds of a node when it holds of its children holds of every tree. A search for a name leads from a node to one of
its children, so it ends within the tree that it starts in. -/

namespace FunctionMetrics.Node

/-! ## Nodes of a tree -/

@[elab_as_elim]
theorem inductionOn {motive : Node → Prop} (root : Node)
    (step : ∀ n : Node, (∀ c ∈ n.children, motive c) → motive n) : motive root := by
  apply step
  intro c hc
  exact inductionOn c step
termination_by sizeOf root
decreasing_by
  have hlt := List.sizeOf_lt_of_mem hc
  cases root; simp at hlt ⊢; omega

theorem forest_eq_flatMap (ns : List Node) : forest ns = ns.flatMap preorder := by
  induction ns with
  | nil => rfl
  | cons n rest ih => rw [forest, List.flatMap_cons, ih]

theorem preorder_eq_flatMap (root : Node) : root.preorder = root :: root.children.flatMap preorder := by
  rw [preorder_eq, forest_eq_flatMap]

theorem mem_preorder {root n : Node} : n ∈ root.preorder ↔ n = root ∨ ∃ c ∈ root.children, n ∈ c.preorder := by
  rw [preorder_eq_flatMap, List.mem_cons, List.mem_flatMap]

theorem mem_preorder_self (root : Node) : root ∈ root.preorder := mem_preorder.mpr (.inl rfl)

theorem mem_preorder_of_child {root n c : Node} (hn : n ∈ root.preorder) (hc : c ∈ n.children) :
    c ∈ root.preorder := by
  induction root using inductionOn with
  | step root ih =>
    rcases mem_preorder.mp hn with rfl | ⟨d, hd, hn⟩
    · exact mem_preorder.mpr (.inr ⟨c, hc, mem_preorder_self c⟩)
    · exact mem_preorder.mpr (.inr ⟨d, hd, ih d hd hn⟩)

theorem mem_nodes_self (root : Node) : root ∈ root.nodes := by
  rw [nodes_eq_preorder]
  exact mem_preorder_self root

theorem mem_nodes_of_child {root n c : Node} (hn : n ∈ root.nodes) (hc : c ∈ n.children) : c ∈ root.nodes := by
  rw [nodes_eq_preorder] at hn ⊢
  exact mem_preorder_of_child hn hc

theorem mem_nodes_below_child {root c n : Node} (hc : c ∈ root.children) (hn : n ∈ c.nodes) : n ∈ root.nodes := by
  rw [nodes_eq_preorder] at hn ⊢
  exact mem_preorder.mpr (.inr ⟨c, hc, hn⟩)

/-- What each child is to its parent, each node is to the root. -/
theorem to_root_of_to_parent {R : Node → Node → Prop} (hrefl : ∀ a, R a a)
    (htrans : ∀ {a b c}, R a b → R b c → R a c) {root n : Node}
    (h : ∀ m ∈ root.nodes, ∀ c ∈ m.children, R c m) (hn : n ∈ root.nodes) : R n root := by
  rw [nodes_eq_preorder] at hn
  induction root using inductionOn with
  | step root ih =>
    rcases mem_preorder.mp hn with rfl | ⟨c, hc, hn⟩
    · exact hrefl n
    · have hbelow : R n c := ih c hc (fun m hm => h m (mem_nodes_below_child hc hm)) hn
      exact htrans hbelow (h root (mem_nodes_self root) c hc)

theorem units_eq_filter_preorder (root : Node) : root.units = root.preorder.filter isUnit := by
  rw [units, nodes_eq_preorder]

theorem mem_nodes_of_mem_units {root unit : Node} (h : unit ∈ root.units) : unit ∈ root.nodes :=
  (List.mem_filter.mp h).1

/-! ## Names -/

def Search.last : Search → Node
  | .found name => name
  | .lost within => within

theorem findName_mem {root owner : Node} (h : owner ∈ root.nodes) : owner.findName.last ∈ root.nodes := by
  fun_induction findName owner with
  | case1 owner hnone => exact h
  | case2 owner c hsome hname => exact mem_nodes_of_child h (List.mem_of_find?_eq_some hsome)
  | case3 owner c hsome hname ih => exact ih (mem_nodes_of_child h (List.mem_of_find?_eq_some hsome))

end FunctionMetrics.Node
