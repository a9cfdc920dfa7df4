import FunctionMetrics.Options.Given
import FunctionMetrics.Proofs.CommandLine.Thresholds
import FunctionMetrics.Proofs.Number.Value

/-!
# Options of a chain

Options come from a mapping or a file, and from overrides merged into others. However long the way, they are the settings
that were given last, as they were given, and these hold: a truth value, a known border and two finite thresholds in
order. What options are written as gives them back.
-/

namespace FunctionMetrics

namespace Options

variable {base o : Options} {es : Entries}

/-! ## Settings -/

/-- Settings put over those of `base`, unchecked; what is no setting of `base` is left out. -/
def settled (base es : Entries) : Entries := base.map fun (k, v) => (k, (Entries.get? k es).getD v)

theorem ofEntriesOver_eq_ok_iff_settled :
    ofEntriesOver base es = .ok o ↔ es.stranger? isKey = none ∧ settled base.toEntries es = o.toEntries := by
  rw [ofEntriesOver_eq_ok]
  simp [settled, toEntries, Entries.field?]

theorem settled_of_ok (h : ofEntriesOver base es = .ok o) : settled base.toEntries es = o.toEntries :=
  (ofEntriesOver_eq_ok_iff_settled.mp h).2

/-- A truth value, a border and two finite numbers, the low one below the high one by their exact values. -/
def Hold (es : Entries) : Prop :=
  ∃ (producer : Bool) (border : Border) (low high : Number),
    es = [(.text producerKey, .bool producer), (.text borderKey, .text border.name),
      (.text Bound.low.key, .number low), (.text Bound.high.key, .number high)] ∧
    low.isFinite = true ∧ high.isFinite = true ∧ low.value < high.value

theorem isFinite_of_isUsable {n : Number} (h : n.isUsable = true) : n.isFinite = true := by
  cases n with
  | int n => rfl
  | float x => exact h

theorem hold_toEntries (o : Options) : Hold o.toEntries := by
  have hlow : o.low.isFinite = true := isFinite_of_isUsable o.low_usable
  have hhigh : o.high.isFinite = true := isFinite_of_isUsable o.high_usable
  exact ⟨_, _, _, _, rfl, hlow, hhigh, (Number.lt_iff_value_lt hlow hhigh).mp o.low_lt_high⟩

theorem merged_toEntries (b o : Options) : b.merged o.toEntries = .ok o :=
  ofEntriesOver_eq_ok_iff_settled.mpr ⟨rfl, rfl⟩

/-! ## Values in the place of mappings -/

theorem ofValue_eq_ok {v : Value} : ofValue v = .ok o ↔ ∃ es, v.toEntries = .ok es ∧ ofEntries es = .ok o :=
  Outcome.bind_eq_ok

theorem ofValue_toEntries (o : Options) : ofValue (.map o.toEntries) = .ok o :=
  ofValue_eq_ok.mpr ⟨o.toEntries, rfl, merged_toEntries default o⟩

theorem mergedWith_eq_ok {v : Value} :
    base.mergedWith v = .ok o ↔ ∃ es, v = .map es ∧ base.merged es = .ok o := by
  unfold mergedWith
  split
  case h_1 es => simp
  case h_2 hmap =>
    have hnone : ¬ ∃ es, v = .map es ∧ base.merged es = .ok o := by
      rintro ⟨es, rfl, -⟩
      exact hmap es rfl
    simp only [hnone, iff_false]
    split
    case h_1 => simp [fail]
    case h_2 items _ =>
      rw [Outcome.bind_eq_ok]
      rintro ⟨_, -, h⟩
      cases h

/-! ## Chains -/

/-- How options come about: from a mapping or a file, and by merging. -/
inductive Chain
  | mapping (v : Value)
  | file (yaml : Yaml.Reader) (fs : Files) (path : Option String)
  | merge (before : Chain) (overrides : Value)

namespace Chain

def options : Chain → Outcome Options
  | .mapping v => ofValue v
  | .file yaml fs path => load yaml fs path
  | .merge before overrides => do (← before.options).mergedWith overrides

/-- The settings that a chain gives, none of them checked: the last one given for each key, or the default. -/
def settings? : Chain → Option Entries
  | .mapping v => v.toEntries.toOption.map (settled default.toEntries)
  | .file yaml fs path => (readSettings yaml fs path).toOption.map (settled default.toEntries)
  | .merge before (.map es) => before.settings?.map fun below => settled below es
  | .merge _ _ => none

theorem settings?_of_ok {c : Chain} (h : c.options = .ok o) : c.settings? = some o.toEntries := by
  induction c generalizing o with
  | mapping v =>
    obtain ⟨es, hes, ho⟩ := ofValue_eq_ok.mp h
    simp only [settings?, hes, Except.toOption, Option.map_some, settled_of_ok ho]
  | file yaml fs path =>
    rw [options, load_eq] at h
    obtain ⟨es, hes, ho⟩ := Outcome.bind_eq_ok.mp h
    simp only [settings?, hes, Except.toOption, Option.map_some, settled_of_ok ho]
  | merge before overrides ih =>
    obtain ⟨b, hb, hmerged⟩ := Outcome.bind_eq_ok.mp h
    obtain ⟨es, rfl, ho⟩ := mergedWith_eq_ok.mp hmerged
    simp only [settings?, ih hb, Option.map_some, settled_of_ok ho]

end Chain

/-- **Options of a chain hold, and their entries give them back.** They are the settings that the chain gives, none of
them changed: a truth value, a border, and two finite thresholds of which the low one is below the high one by exact
value. Loaded from their own entries, or with these merged into any options, they are the same again. -/
theorem chain_options_hold {c : Chain} (h : c.options = .ok o) :
    c.settings? = some o.toEntries ∧ Hold o.toEntries ∧ ofValue (.map o.toEntries) = .ok o ∧
      ∀ b : Options, b.mergedWith (.map o.toEntries) = .ok o :=
  ⟨Chain.settings?_of_ok h, hold_toEntries o, ofValue_toEntries o, fun b => merged_toEntries b o⟩

/-- Rounded to a floating point number the high threshold would be the low one. -/
def closeEntries : Entries :=
  [(.text Bound.low.key, .number (.float (.ofDecimal false (2 ^ 53) 0))), (.text Bound.high.key, .int (2 ^ 53 + 1))]

def close : Options := { low := .float (.ofDecimal false (2 ^ 53) 0), high := .int (2 ^ 53 + 1) }

theorem chain_options_hold_close :
    (Chain.merge (.mapping (.map closeEntries)) (.map [(.text borderKey, .text "none")])).options =
      .ok { close with border := .none } ∧
    Hold (toEntries { close with border := .none }) := by
  have hclose : ofEntries closeEntries = .ok close := ofEntriesOver_eq_ok.mpr ⟨rfl, rfl, rfl, rfl, rfl⟩
  have hbefore : (Chain.mapping (.map closeEntries)).options = .ok close := ofValue_eq_ok.mpr ⟨_, rfl, hclose⟩
  have hmerged : close.merged [(.text borderKey, .text "none")] = .ok { close with border := .none } :=
    ofEntriesOver_eq_ok.mpr ⟨rfl, rfl, rfl, rfl, rfl⟩
  have hchain : (Chain.merge (.mapping (.map closeEntries)) (.map [(.text borderKey, .text "none")])).options =
      .ok { close with border := .none } :=
    Outcome.bind_eq_ok.mpr ⟨close, hbefore, mergedWith_eq_ok.mpr ⟨_, rfl, hmerged⟩⟩
  exact ⟨hchain, (chain_options_hold hchain).2.1⟩

end Options

end FunctionMetrics
