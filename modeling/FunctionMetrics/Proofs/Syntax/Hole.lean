import FunctionMetrics.Syntax.Unit

/-!
# Trees with a hole

Some children of a node that is neither a unit nor a declarator may be replaced. The units elsewhere in the tree keep
their places, and no search for a name sees the difference.
-/

namespace FunctionMetrics

namespace Node

/-! ## Rows of trees -/

def unitsIn (ns : List Node) : List Node := (forest ns).filter isUnit

theorem forest_singleton (n : Node) : forest [n] = n.preorder := by simp [forest]

theorem units_eq_unitsIn (n : Node) : n.units = unitsIn [n] := by
  rw [units, unitsIn, forest_singleton, nodes_eq_preorder]

theorem unitsIn_append (a b : List Node) : unitsIn (a ++ b) = unitsIn a ++ unitsIn b := by
  rw [unitsIn, forest_append, List.filter_append]; rfl

theorem unitsIn_singleton (n : Node) : unitsIn [n] = (if n.isUnit then [n] else []) ++ unitsIn n.children := by
  rw [unitsIn, forest_singleton, preorder_eq, List.filter_cons]
  split <;> rfl

def size (ns : List Node) : Nat := (forest ns).length

theorem size_append (a b : List Node) : size (a ++ b) = size a + size b := by
  rw [size, forest_append, List.length_append]; rfl

theorem size_singleton (n : Node) : size [n] = size n.children + 1 := by
  rw [size, forest_singleton, preorder_eq, List.length_cons]; rfl

theorem length_nodes (n : Node) : n.nodes.length = size [n] := by
  rw [nodes_eq_preorder, size, forest_singleton]

end Node

/-! ## Trees with a hole -/

/-- A node without some children that stand in a row. -/
structure Frame where
  kind : String
  range : Range
  text : List UInt8
  before : List Node
  after : List Node

def Frame.around (f : Frame) (ns : List Node) : Node := ⟨f.kind, f.range, f.text, f.before ++ ns ++ f.after⟩

/-- A tree with a hole. The frame at the hole is neither a unit nor a declarator; those around it come from the root
inward, and any of them may be either. -/
structure Context where
  outer : List Frame
  inner : Frame
  not_unit : inner.kind ∉ unitKinds
  not_declarator : inner.kind ∉ declaratorKinds

def Frame.wrap (frames : List Frame) (n : Node) : Node := frames.foldr (fun f n => f.around [n]) n

def Context.fill (c : Context) (ns : List Node) : Node := Frame.wrap c.outer (c.inner.around ns)

namespace Frame

def isUnit (f : Frame) : Bool := unitKinds.contains f.kind

theorem wrap_cons (f : Frame) (rest : List Frame) (n : Node) : wrap (f :: rest) n = f.around [wrap rest n] := rfl

theorem unitsIn_around (f : Frame) (ns : List Node) :
    Node.unitsIn [f.around ns] =
      (if f.isUnit then [f.around ns] else []) ++ Node.unitsIn f.before ++ Node.unitsIn ns ++ Node.unitsIn f.after := by
  rw [Node.unitsIn_singleton]
  change _ ++ Node.unitsIn (f.before ++ ns ++ f.after) = _
  rw [Node.unitsIn_append, Node.unitsIn_append]
  simp only [List.append_assoc]
  rfl

theorem size_around (f : Frame) (ns : List Node) :
    Node.size [f.around ns] = Node.size f.before + Node.size ns + Node.size f.after + 1 := by
  rw [Node.size_singleton]
  change Node.size (f.before ++ ns ++ f.after) + 1 = _
  rw [Node.size_append, Node.size_append]

end Frame

/-! ## Names -/

def SameHead (a b : Node) : Prop := a.kind = b.kind ∧ a.range = b.range ∧ a.text = b.text

theorem SameHead.refl (n : Node) : SameHead n n := ⟨rfl, rfl, rfl⟩

def SameSearch : Node.Search → Node.Search → Prop
  | .found a, .found b => SameHead a b
  | .lost a, .lost b => SameHead a b
  | _, _ => False

theorem SameSearch.refl (s : Node.Search) : SameSearch s s := by
  cases s <;> exact SameHead.refl _

theorem SameSearch.found {a : Node} {s : Node.Search} (h : SameSearch (.found a) s) : ∃ b, s = .found b ∧ SameHead a b := by
  cases s with
  | found b => exact ⟨b, rfl, h⟩
  | lost b => exact h.elim

namespace Node

def decides (n : Node) : Bool := n.isName || n.isDeclarator

theorem findName_eq (n : Node) :
    n.findName =
      match n.children.find? decides with
      | none => .lost n
      | some c => if c.isName then .found c else c.findName := by
  rw [findName]
  split
  case h_1 h =>
    have hnone : n.children.find? decides = none := h
    rw [hnone]
  case h_2 c h =>
    have hsome : n.children.find? decides = some c := h
    rw [hsome]

end Node

section

variable {a b : Node}

theorem SameHead.isName_eq (h : SameHead a b) : a.isName = b.isName := by
  unfold Node.isName; rw [h.1]

theorem SameHead.isDeclarator_eq (h : SameHead a b) : a.isDeclarator = b.isDeclarator := by
  unfold Node.isDeclarator; rw [h.1]

theorem SameHead.decides_eq (h : SameHead a b) : a.decides = b.decides := by
  unfold Node.decides; rw [h.isName_eq, h.isDeclarator_eq]

theorem SameHead.wrap (frames : List Frame) (h : SameHead a b) : SameHead (Frame.wrap frames a) (Frame.wrap frames b) := by
  cases frames with
  | nil => exact h
  | cons f rest => exact ⟨rfl, rfl, rfl⟩

theorem sameSearch_around (f : Frame) (h : SameHead a b) (hsearch : a.isDeclarator = true → SameSearch a.findName b.findName) :
    SameSearch (f.around [a]).findName (f.around [b]).findName := by
  rw [Node.findName_eq, Node.findName_eq (f.around [b])]
  have hchildren : ∀ n, (f.around [n]).children.find? Node.decides =
      (f.before.find? Node.decides).or ((if n.decides then some n else none).or (f.after.find? Node.decides)) := by
    intro n
    change (f.before ++ [n] ++ f.after).find? Node.decides = _
    rw [List.append_assoc, List.find?_append, List.find?_append, List.find?_singleton]
  rw [hchildren, hchildren, ← h.decides_eq]
  cases f.before.find? Node.decides with
  | some c => exact SameSearch.refl _
  | none =>
    by_cases hdecides : a.decides = true
    · simp only [hdecides, if_true, Option.none_or, Option.some_or, ← h.isName_eq]
      split
      case isTrue => exact h
      case isFalse hname =>
        -- What decides and is no name is a declarator, and the search goes on in it.
        apply hsearch
        simpa [Node.decides, hname] using hdecides
    · simp only [hdecides, Option.none_or]
      cases f.after.find? Node.decides with
      | some c => exact SameSearch.refl _
      | none => exact ⟨rfl, rfl, rfl⟩

theorem sameSearch_wrap (f : Frame) (frames : List Frame) (h : SameHead a b) (ha : a.isDeclarator = false) :
    SameSearch (Frame.wrap (f :: frames) a).findName (Frame.wrap (f :: frames) b).findName := by
  induction frames generalizing f with
  | nil =>
    apply sameSearch_around f h
    rw [ha]
    intro hd; cases hd
  | cons g rest ih => exact sameSearch_around f (h.wrap (g :: rest)) fun _ => ih g

end

end FunctionMetrics
