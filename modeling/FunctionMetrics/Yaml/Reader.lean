import FunctionMetrics.Value.Knot
import FunctionMetrics.Value.Slots
import FunctionMetrics.Yaml.Answer
import FunctionMetrics.Yaml.Document

/-! # From a document to its value

A collection is made before what is in it, and filled when its turn comes, so of several things that are wrong the one
on the outermost level is found first. Until then it is known by the number of its cell. -/

namespace FunctionMetrics.Yaml

def scalarValue (text : Text.Codes) : Tag → Except Stop Value
  | .null => .ok .null
  | .bool => (Schema.truth text).map Value.bool |>.mapError .fault
  | .int => (Schema.int text).map Value.int |>.mapError .fault
  | .float => (Schema.float text).map (fun x => .number (.float x)) |>.mapError .fault
  | .binary =>
    match Schema.bytes? text with
    | some b => .ok (.bytes b)
    | none => .error .malformed
  | .timestamp => (Schema.moment text).mapError .fault
  | .str => .ok (.ofCodes text)
  | _ => .error .malformed

/-- What a value is known by where it equals nothing, not even itself. -/
inductive Identity
  | node (n : Nat)
  /-- The NaN that starts with a point is one value, however often it is written. -/
  | nan
deriving DecidableEq, Repr

structure Made where
  identity : Identity
  value : Value
deriving Repr

namespace Made

def sameKey (a b : Made) : Bool := a.identity = b.identity ∨ a.value.sameKey b.value = true

end Made

/-- The value of a node that is no collection by its tag. -/
def Graph.madeAt (g : Graph) (n : Nat) : Except Stop Made := do
  let text ← g.textAt (g.size + 1) n
  if g.tagAt n = .timestamp ∧ g.isMapping n then .error (.fault .momentOfMapping)
  else
    let identity := if g.tagAt n = .float ∧ Schema.isNan text then .nan else .node n
    return { identity, value := ← scalarValue text (g.tagAt n) }

structure Making where
  graph : Graph
  /-- The values made so far, by the numbers of their nodes. -/
  made : Array (Option Made)
  /-- The nodes of the collections that were met, in that order. -/
  met : Array Nat := #[]
  /-- What is in them, as far as they are filled. -/
  cells : Array Value := #[]

abbrev Make := StateT Making (Except Stop)

namespace Make

def malformed {α : Type} : Make α := throw .malformed

def enqueue (n : Nat) : Make Value :=
  modifyGet fun m => (.again m.met.size, { m with met := m.met.push n })

/-- What a node stands for, made when it is first asked for. -/
def madeOf (n : Nat) : Make Made := do
  match (← get).made.getD n none with
  | some v => return v
  | none =>
    let g := (← get).graph
    let v ← match g.tagAt n with
      | .seq | .map | .set | .omap | .pairs => do pure { identity := .node n, value := ← enqueue n }
      | .merge | .value | .other => malformed
      | _ => g.madeAt n
    modify fun m => { m with made := m.made.setIfInBounds n (some v) }
    return v

def valueOf (n : Nat) : Make Value := return (← madeOf n).value

/-- Replaces the merge keys of a mapping; gives its entries. -/
def flatten (n : Nat) : Make (List Link) := do
  let (es, g) ← (Graph.Edit.flatten n).run (← get).graph
  modify fun m => { m with graph := g }
  return es

/-- An entry; a collection is no key. -/
def entry (e : Link) : Make (Made × Value) := do
  let key ← madeOf e.1
  if key.value.notKey?.isSome then malformed
  return (key, ← valueOf e.2)

/-- Gives a key a value: a known key keeps its place. -/
def put (e : Made × Value) : List (Made × Value) → List (Made × Value)
  | [] => [e]
  | f :: rest => if f.1.sameKey e.1 then (f.1, e.2) :: rest else f :: put e rest

def entries (n : Nat) : Make Entries := do
  let es ← (← flatten n).mapM entry
  return (es.foldl (fun done e => put e done) []).map fun (key, v) => (key.value, v)

def pair (n : Nat) : Make Value := do
  match (← get).graph[n]? with
  | some (.mapping _ [(k, v)]) => return .pair (← valueOf k) (← valueOf v)
  | _ => malformed

def contents (n : Nat) : Make Value := do
  match (← get).graph[n]? with
  | some (.sequence .seq items) => return .list (← items.mapM valueOf)
  | some (.sequence .omap items) | some (.sequence .pairs items) => return .list (← items.mapM pair)
  | some (.mapping .map _) => return .map (← entries n)
  | some (.mapping .set _) => return .set (Value.listed ((← entries n).map (·.1)))
  | _ => malformed

/-- Fills the collections in the order in which they were met. -/
def fillAll (fuel : Nat) : Make Unit :=
  match fuel with
  | 0 => pure ()
  | fuel + 1 => do
    match (← get).met[(← get).cells.size]? with
    | none => pure ()
    | some n =>
      let v ← contents n
      modify fun m => { m with cells := m.cells.push v }
      fillAll fuel

/-- The value of a root, and the cells it refers to. -/
def all (root : Nat) : Make (Value × List Value) := do
  let v ← valueOf root
  fillAll ((← get).graph.size + 1)
  return (v, (← get).cells.toList)

end Make

/-- The value of a text; a text without a document is null. Collections are written out unless some of them can be
reached in more than one way. -/
def read (text : String) : Except Stop Value := do
  match ← document text with
  | (none, _) => return .null
  | (some root, graph) =>
    let ((v, cells), _) ← (Make.all root).run { graph, made := Array.replicate graph.size none }
    match v with
    | .again start =>
      let places := start :: cells.flatMap Value.references
      return if places.Nodup then .unrolled cells (cells.length + 1) start else .knot cells start
    | v => return v

/-- This reader has no words for what is wrong with a text. -/
def Stop.refusal : Stop → Refusal
  | .malformed => .malformed ""
  | .fault f => .stopped f.error

def reader : Reader := fun text => (read text).mapError Stop.refusal

end FunctionMetrics.Yaml
