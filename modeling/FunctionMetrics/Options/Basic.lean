import FunctionMetrics.Analysis.Severity
import FunctionMetrics.Failure

/-! # Options

Four settings with defaults. Both thresholds are numbers with a finite floating point value, and the low one is below
the high one; no other options exist. -/

namespace FunctionMetrics

inductive Border
  | none
  | single
  | double
  | rounded
  | solid
  | shadow
deriving DecidableEq, Repr, Inhabited

namespace Border

def all : List Border := [.none, .single, .double, .rounded, .solid, .shadow]

def name : Border → String
  | .none => "none"
  | .single => "single"
  | .double => "double"
  | .rounded => "rounded"
  | .solid => "solid"
  | .shadow => "shadow"

def ofName? (s : String) : Option Border := all.find? fun b => b.name = s

end Border

/-- A whole number that has a floating point neighbour, or a finite floating point number. -/
def Number.isUsable : Number → Bool
  | .int n => (Binary64.ofInt? n).isSome
  | .float x => x.isFinite

structure Options where
  isDiagnosticProducer : Bool := false
  border : Border := .rounded
  low : Number := 7
  high : Number := 12
  low_usable : low.isUsable = true := by decide +kernel
  high_usable : high.isUsable = true := by decide +kernel
  low_lt_high : low < high := by decide +kernel
deriving DecidableEq

namespace Options

def default : Options := {}

instance : Inhabited Options := ⟨default⟩

def thresholds (o : Options) : Thresholds := ⟨o.low, o.high⟩

/-! ## Keys -/

def producerKey : String := "is_diagnostic_producer"
def borderKey : String := "border"

def keys : List String := [producerKey, borderKey, Bound.low.key, Bound.high.key]

def isKey (v : Value) : Bool := keys.any fun k => v.sameKey (.text k)

/-- The options as entries, which give the same options back. -/
def toEntries (o : Options) : Entries :=
  [(.text producerKey, .bool o.isDiagnosticProducer), (.text borderKey, .text o.border.name),
   (.text Bound.low.key, .number o.low), (.text Bound.high.key, .number o.high)]

/-! ## Checks -/

def refuseConfig {α : Type} (p : ConfigProblem) : Outcome α := refuse (.config p)

/-- Refuses a value, which is shown in the message. -/
def refuseGiven {α : Type} (v : Value) (problem : String → ConfigProblem) : Outcome α := do
  refuseConfig (problem (← written v.literal?))

def refuseKey {α : Type} (key : Value) : Outcome α := do
  refuseConfig (.unknownOption key (← written key.plain?))

def checkProducer : Value → Outcome Bool
  | .bool b => .ok b
  | v => refuseGiven v .producerNotBool

def checkBorder (v : Value) : Outcome Border :=
  match v with
  | .text s =>
    match Border.ofName? s with
    | some b => .ok b
    | none => refuseGiven v (.unknownBorder (Border.all.map Border.name))
  | _ => refuseGiven v (.unknownBorder (Border.all.map Border.name))

abbrev Threshold := { n : Number // n.isUsable = true }

def refuseThreshold {α : Type} (b : Bound) : Number → Outcome α
  | .int _ => fail .thresholdTooLarge
  | .float x => refuseConfig (.notFinite b (.float x))

def checkThreshold (b : Bound) (v : Value) : Outcome Threshold :=
  match v with
  | .number n => if h : n.isUsable = true then .ok ⟨n, h⟩ else refuseThreshold b n
  | _ => refuseGiven v (.notANumber b)

/-- Checks the four settings in order, then the two thresholds against each other. -/
def check (producer border low high : Value) : Outcome Options := do
  let isDiagnosticProducer ← checkProducer producer
  let border ← checkBorder border
  let ⟨low, low_usable⟩ ← checkThreshold .low low
  let ⟨high, high_usable⟩ ← checkThreshold .high high
  if low_lt_high : low < high then
    .ok { isDiagnosticProducer, border, low, high, low_usable, high_usable, low_lt_high }
  else refuseConfig (.notLower low high)

/-- The options that entries give; a setting that is not among them has the value in `base`. -/
def ofEntriesOver (base : Options) (es : Entries) : Outcome Options :=
  match es.find? fun (k, _) => ! isKey k with
  | some (k, _) => refuseKey k
  | none =>
    check ((es.field? producerKey).getD (.bool base.isDiagnosticProducer))
      ((es.field? borderKey).getD (.text base.border.name))
      ((es.field? Bound.low.key).getD (.number base.low))
      ((es.field? Bound.high.key).getD (.number base.high))

def ofEntries (es : Entries) : Outcome Options := ofEntriesOver default es

def merged (o : Options) (overrides : Entries) : Outcome Options := ofEntriesOver o overrides

end Options

end FunctionMetrics
