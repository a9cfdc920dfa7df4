import FunctionMetrics.Syntax.Node

/-! # Functions in a tree

A unit is a function or a method. Its name is a child of its own; some grammars wrap the name in a declarator,
and then it is a child of that. -/

namespace FunctionMetrics

def unitKinds : List String := ["function_definition", "method_declaration"]
def nameKinds : List String := ["identifier", "name"]
def declaratorKinds : List String := ["function_declarator"]

namespace Node

def isUnit (n : Node) : Bool := unitKinds.contains n.kind
def isName (n : Node) : Bool := nameKinds.contains n.kind
def isDeclarator (n : Node) : Bool := declaratorKinds.contains n.kind

/-- Every unit of a tree in pre-order, those inside other units too. -/
def units (root : Node) : List Node := root.nodes.filter isUnit

/-- The node at which the search for a name came to its end. -/
inductive Search
  | found (name : Node)
  | lost (within : Node)

/-- The first child that is a name or a declarator decides; a declarator is searched in its turn. -/
def findName (owner : Node) : Search :=
  match _h : owner.children.find? (fun c => c.isName || c.isDeclarator) with
  | none => .lost owner
  | some c => if c.isName then .found c else findName c
termination_by sizeOf owner
decreasing_by
  have mem := List.mem_of_find?_eq_some _h
  have lt := List.sizeOf_lt_of_mem mem
  cases owner; simp at lt ⊢; omega

end Node

end FunctionMetrics
