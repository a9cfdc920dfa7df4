/-! # Tags

A tag says which kind of value a node stands for. -/

namespace FunctionMetrics.Yaml

inductive Tag
  | null
  | bool
  | int
  | float
  | binary
  | timestamp
  | omap
  | pairs
  | set
  | str
  | seq
  | map
  | merge
  | value
  | other
deriving DecidableEq, Repr

namespace Tag

def standard : String := "tag:yaml.org,2002:"

def names : List (String × Tag) :=
  [("null", .null), ("bool", .bool), ("int", .int), ("float", .float), ("binary", .binary),
   ("timestamp", .timestamp), ("omap", .omap), ("pairs", .pairs), ("set", .set), ("str", .str), ("seq", .seq),
   ("map", .map), ("merge", .merge), ("value", .value)]

def ofText (text : String) : Tag :=
  match names.find? fun (name, _) => standard ++ name = text with
  | some (_, t) => t
  | none => .other

end Tag

end FunctionMetrics.Yaml
