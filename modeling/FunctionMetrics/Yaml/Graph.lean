import FunctionMetrics.Text.Codes
import FunctionMetrics.Yaml.Cursor
import FunctionMetrics.Yaml.Tag

/-! # The graph of a document

Nodes refer to each other by number, so an alias is a second way to the same node, and a collection may lead back to
itself. A merge key asks a mapping to take over the entries of others: it is taken out, and what it asks for is put in
front of the entries that were there. -/

namespace FunctionMetrics.Yaml

abbrev Link := Nat × Nat

inductive Node
  | scalar (tag : Tag) (text : Text.Codes)
  | sequence (tag : Tag) (items : List Nat)
  | mapping (tag : Tag) (entries : List Link)
deriving Repr

namespace Node

def tag : Node → Tag
  | .scalar t _ | .sequence t _ | .mapping t _ => t

def withTag (t : Tag) : Node → Node
  | .scalar _ text => .scalar t text
  | .sequence _ items => .sequence t items
  | .mapping _ entries => .mapping t entries

def isMapping : Node → Bool
  | .mapping .. => true
  | _ => false

def entries : Node → List Link
  | .mapping _ es => es
  | _ => []

def withEntries (es : List Link) : Node → Node
  | .mapping t _ => .mapping t es
  | n => n

end Node

abbrev Graph := Array Node

namespace Graph

def tagAt (g : Graph) (n : Nat) : Tag := (g[n]?.map Node.tag).getD .other

def entriesAt (g : Graph) (n : Nat) : List Link := (g[n]?.map Node.entries).getD []

def isMapping (g : Graph) (n : Nat) : Bool := g[n]?.any Node.isMapping

def entryCount (g : Graph) : Nat := g.foldl (fun sum n => sum + n.entries.length) 0

/-! ## Text of scalars -/

/-- The text of a scalar; that of a mapping is the text of its own value, whose key is an equals sign. -/
def textAt (g : Graph) (fuel : Nat) (n : Nat) : Except Stop Text.Codes :=
  match fuel with
  | 0 => .error (.fault .endless)
  | fuel + 1 =>
    match g[n]? with
    | some (.scalar _ text) => .ok text
    | some (.mapping _ es) =>
      match es.find? fun e => g.tagAt e.1 = .value with
      | some (_, value) => g.textAt fuel value
      | none => .error .malformed
    | _ => .error .malformed

/-! ## Merge keys -/

abbrev Edit := StateT Graph (Except Stop)

namespace Edit

def change (n : Nat) (f : Node → Node) : Edit Unit := modify fun g => g.modify n f

/-- Keys that were passed over are texts like others, even the one that gives a mapping's own value. -/
def passOver (keys : List Nat) : Edit Unit :=
  keys.forM fun k => do if (← get).tagAt k = .value then change k (·.withTag .str)

/-- The place and the source of the first merge key at `index` or behind it. -/
def nextMerge? (g : Graph) (n index : Nat) : Option (Nat × Nat) :=
  ((g.entriesAt n).drop index).zipIdx index |>.findSome? fun (e, place) =>
    if g.tagAt e.1 = .merge then some (place, e.2) else none

/-- Puts in front of a mapping's entries what its merge keys ask for, which `gather` takes out; gives all of them. -/
def flattenWith (gather : Nat → Nat → Edit (List Link)) (n : Nat) : Edit (List Link) := do
  let found ← gather n 0
  change n fun node => node.withEntries (found ++ node.entries)
  return (← get).entriesAt n

/-- The entries that a merge key takes from its source: a mapping, or a sequence of mappings of which the first wins. -/
def entriesOf (flatten : Nat → Edit (List Link)) (source : Nat) : Edit (List Link) := do
  let ofMapping (n : Nat) : Edit (List Link) := do
    if (← get).isMapping n then flatten n else throw .malformed
  match (← get)[source]? with
  | some (.sequence _ items) => return (← items.mapM ofMapping).reverse.flatten
  | _ => ofMapping source

/-- Takes the merge keys out of a mapping, from the entry at `index` on, and gives the entries that they ask for. Each
round takes one key out, so no graph needs more rounds than it has entries. -/
def gather (fuel : Nat) (n index : Nat) : Edit (List Link) :=
  match fuel with
  | 0 => throw .malformed
  | fuel + 1 => do
    let keys := ((← get).entriesAt n).map (·.1)
    match nextMerge? (← get) n index with
    | none =>
      passOver (keys.drop index)
      return []
    | some (place, source) =>
      passOver ((keys.take place).drop index)
      change n fun node => node.withEntries (node.entries.eraseIdx place)
      let found ← entriesOf (flattenWith (gather fuel)) source
      return found ++ (← gather fuel n place)

/-- Replaces the merge keys of a mapping by the entries that they ask for; gives all its entries. -/
def flatten (n : Nat) : Edit (List Link) := do
  let fuel := (← get).entryCount + 1
  flattenWith (gather fuel) n

end Edit

end Graph

end FunctionMetrics.Yaml
