import FunctionMetrics.Number.Basic
import FunctionMetrics.Text.Quoted
import FunctionMetrics.Value.Calendar

/-! # Values of configuration files

What a configuration file or a caller may hand over before it is checked. A map keeps the order in which its
keys first came; keys are equal as numbers are, whatever their kind. Collections that lead back to themselves, or that
stand in several places, are kept as a knot of cells that name each other by number. -/

namespace FunctionMetrics

inductive Value
  | null
  | bool (b : Bool)
  | number (n : Number)
  | text (s : String)
  /-- A text that no string can hold, since half of a pair stands alone in it. -/
  | broken (codes : Text.Codes)
  | bytes (b : List UInt8)
  | date (d : Date)
  | moment (m : Moment)
  | list (items : List Value)
  | pair (first second : Value)
  | map (entries : List (Value × Value))
  | set (items : List Value)
  /-- The collection in another cell of the same knot. -/
  | again (cell : Nat)
  /-- The collection in the cell `start` of a knot; a cell holds no other knot. -/
  | knot (cells : List Value) (start : Nat)
deriving Repr, Inhabited

namespace Value

def int (n : Int) : Value := .number (.int n)

def ofCodes (cs : Text.Codes) : Value := if cs.isBroken then .broken cs else .text cs.shown

/-- The collection that a knot starts with; what is no knot is left as it is. -/
def outermost : Value → Value
  | .knot cells start => cells.getD start .null
  | v => v

def kind (v : Value) : String :=
  match v.outermost with
  | .null => "NoneType"
  | .bool _ => "bool"
  | .number (.int _) => "int"
  | .number (.float _) => "float"
  | .text _ | .broken _ => "str"
  | .bytes _ => "bytes"
  | .date _ => "datetime.date"
  | .moment _ => "datetime.datetime"
  | .list _ | .again _ | .knot .. => "list"
  | .pair .. => "tuple"
  | .map _ => "dict"
  | .set _ => "set"

/-- Null, false, zero and everything empty. -/
def isEmpty (v : Value) : Bool :=
  match v.outermost with
  | .null | .bool false | .text "" | .bytes [] | .list [] | .map [] | .set [] => true
  | .number n => n.same 0
  | _ => false

/-- A truth value counts as the number 1 or 0. -/
def asNumber? : Value → Option Number
  | .bool b => some (if b then 1 else 0)
  | .number n => some n
  | _ => none

/-! ## Keys -/

def sameKey : Value → Value → Bool
  | .null, .null => true
  | .text s, .text t => s = t
  | .broken s, .broken t => s = t
  | .bytes a, .bytes b => a = b
  | .date a, .date b => a = b
  | .moment a, .moment b => a.same b
  | .pair a b, .pair c d => sameKey a c && sameKey b d
  | a, b =>
    match a.asNumber?, b.asNumber? with
    | some m, some n => m.same n
    | _, _ => false

/-- The collection that keeps a value from being a key, if there is one. -/
def notKey? : Value → Option Value
  | .list xs => some (.list xs)
  | .map es => some (.map es)
  | .set xs => some (.set xs)
  | .again n => some (.again n)
  | .knot cells start => some (.knot cells start)
  | .pair a b => (notKey? a).or (notKey? b)
  | _ => none

end Value

/-- Entries in the order of their first keys. -/
abbrev Entries := List (Value × Value)

namespace Entries

def get? (key : Value) : Entries → Option Value
  | [] => none
  | (k, v) :: rest => if k.sameKey key then some v else get? key rest

/-- Gives `key` a value: a known key keeps its place. -/
def put (key value : Value) : Entries → Entries
  | [] => [(key, value)]
  | (k, v) :: rest => if k.sameKey key then (k, value) :: rest else (k, v) :: put key value rest

def ofList (pairs : List (Value × Value)) : Entries := pairs.foldl (fun es p => put p.1 p.2 es) []

def field? (name : String) (es : Entries) : Option Value := get? (.text name) es

def update (es others : Entries) : Entries := others.foldl (fun es p => put p.1 p.2 es) es

end Entries

end FunctionMetrics
