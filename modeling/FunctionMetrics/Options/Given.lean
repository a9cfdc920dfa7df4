import FunctionMetrics.Options.Basic

/-! # Options from any value

A caller may hand over anything in place of a mapping. What is empty stands for no settings, and a row of pairs for a
mapping; all else is a fault. -/

namespace FunctionMetrics

namespace Value

/-- The items of a value that has some; those of a mapping are its keys. -/
def items? : Value → Option (List Value)
  | .text s => some (s.toList.map fun c => .text c.toString)
  | .broken cs => some (cs.map fun n => .ofCodes [n])
  | .bytes b => some (b.map fun x => .int x.toNat)
  | .list xs | .set xs => some xs
  | .pair a b => some [a, b]
  | .map es => some (es.map (·.1))
  | _ => none

/-- The mapping that a row of pairs spells; `index` counts the pairs before it. -/
def entriesOfPairs (index : Nat) : List Value → Outcome (List (Value × Value))
  | [] => .ok []
  | item :: rest =>
    match item.items? with
    | none => fail (.elementNotSequence index)
    | some [k, v] =>
      match k.notKey? with
      | some given => fail (.unhashable given)
      | none => (entriesOfPairs (index + 1) rest).map fun es => (k, v) :: es
    | some items => fail (.elementLength index items.length)

def toEntries (v : Value) : Outcome Entries :=
  if v.isEmpty then .ok []
  else match v with
    | .map es => .ok es
    | _ =>
      match v.items? with
      | none => fail (.notIterable v)
      | some items => (entriesOfPairs 0 items).map Entries.ofList

end Value

namespace Options

def ofValue (v : Value) : Outcome Options := do ofEntries (← v.toEntries)

/-- Looks for the first item that is not the key of a setting. -/
def checkKeys : List Value → Outcome Unit
  | [] => .ok ()
  | k :: rest =>
    match k.notKey? with
    | some given => fail (.unhashable given)
    | none => if isKey k then checkKeys rest else refuseKey k

/-- The options with the settings of any value replaced; only a mapping has settings. -/
def mergedWith (o : Options) (v : Value) : Outcome Options :=
  match v with
  | .map es => o.merged es
  | _ =>
    match v.items? with
    | none => fail (.notIterable v)
    | some items => do
      checkKeys items
      fail (.overridesNotMapping v)

end Options

end FunctionMetrics
