import FunctionMetrics.Syntax.Location

/-! # Syntax trees

A tree is read in pre-order: a node, then its children from first to last. The walk keeps the nodes that are
still to be read in a list, so that a deep tree needs no deep stack. -/

namespace FunctionMetrics

/-- A node of a syntax tree, with the bytes that it covers. -/
structure Node where
  kind : String
  range : Range := ⟨.origin, .origin⟩
  text : List UInt8 := []
  children : List Node := []
deriving Inhabited

namespace Node

mutual

/-- A node and all nodes below it in pre-order. -/
def preorder : Node → List Node
  | ⟨kind, range, text, children⟩ => ⟨kind, range, text, children⟩ :: forest children

/-- The nodes of several trees, one tree after the other. -/
def forest : List Node → List Node
  | [] => []
  | n :: rest => n.preorder ++ forest rest

end

theorem preorder_eq (n : Node) : n.preorder = n :: forest n.children := by
  cases n; rw [preorder]

theorem forest_cons (n : Node) (rest : List Node) : forest (n :: rest) = n :: forest n.children ++ forest rest := by
  rw [forest, preorder_eq]

theorem forest_append (a b : List Node) : forest (a ++ b) = forest a ++ forest b := by
  induction a with
  | nil => simp [forest]
  | cons n rest ih => rw [List.cons_append, forest_cons, forest_cons, ih]; simp

/-- Reads the pending trees in pre-order behind the nodes already seen. -/
def walkOnto (seen : Array Node) : List Node → Array Node
  | [] => seen
  | n :: pending => walkOnto (seen.push n) (n.children ++ pending)
termination_by pending => (forest pending).length
decreasing_by rw [forest_cons, forest_append]; simp

def nodes (n : Node) : List Node := (walkOnto #[] [n]).toList

def descendants (n : Node) : List Node := (walkOnto #[] n.children).toList

theorem walkOnto_eq (seen : Array Node) (pending : List Node) :
    (walkOnto seen pending).toList = seen.toList ++ forest pending := by
  fun_induction walkOnto seen pending with
  | case1 => simp [forest]
  | case2 seen n pending ih => rw [ih, forest_cons, forest_append]; simp

theorem nodes_eq_preorder (n : Node) : n.nodes = n.preorder := by
  simp [nodes, walkOnto_eq, forest]

theorem descendants_eq_forest (n : Node) : n.descendants = forest n.children := by
  simp [descendants, walkOnto_eq]

theorem nodes_eq_cons (n : Node) : n.nodes = n :: n.descendants := by
  rw [nodes_eq_preorder, preorder_eq, descendants_eq_forest]

end Node

end FunctionMetrics
