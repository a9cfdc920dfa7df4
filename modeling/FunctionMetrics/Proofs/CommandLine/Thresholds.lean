import FunctionMetrics.CommandLine.Program
import FunctionMetrics.Installed
import FunctionMetrics.Proofs.Number.Limits
import FunctionMetrics.Proofs.Options.Merge
import FunctionMetrics.Proofs.Text.Case
import Mathlib

/-!
# Thresholds of the command line

The options of a run come from the settings of the file with the thresholds of the command line put over them. But the
file is checked by itself first, so thresholds in it that are not in order end the run, whatever is put over them.
-/

namespace FunctionMetrics

namespace Options

variable {m : Entries} {o : Options} {path : String}

/-! ## Settings of a file -/

/-- The suffix of a path is `.json` in any letter case. -/
def IsJsonPath (path : String) : Prop := (Path.ofText path).suffix.toList.map Char.toLower = ".json".toList

instance : Decidable (IsJsonPath path) := inferInstanceAs (Decidable (_ = _))

theorem kind_eq_json_iff : (Path.ofText path).kind = ".json" ↔ IsJsonPath path := by
  have hletters : ".json".toList.all (fun c => decide (Text.IsOwnSmall c.toNat)) = true := by decide
  exact Text.lowerText_eq_iff fun c hc => of_decide_eq_true (List.all_eq_true.mp hletters c hc)

def readSettings (yaml : Yaml.Reader) (fs : Files) (path : Option String) : Outcome Entries :=
  match path with
  | none | some "" => .ok []
  | some path => readEntries yaml fs path

theorem ofEntries_nil : ofEntries [] = .ok default := ofEntriesOver_eq_ok.mpr ⟨rfl, rfl, rfl, rfl, rfl⟩

theorem readSettings_some {yaml : Yaml.Reader} {fs : Files} {path : String} (h : path ≠ "") :
    readSettings yaml fs (some path) = readEntries yaml fs path := by
  unfold readSettings
  split
  case h_1 h' => cases h'
  case h_2 h' => exact absurd (Option.some.inj h') h
  case h_3 h' => rw [Option.some.inj h']

theorem load_eq (yaml : Yaml.Reader) (fs : Files) (path : Option String) :
    load yaml fs path = readSettings yaml fs path >>= ofEntries := by
  have hnone : (Except.ok [] : Outcome Entries) >>= ofEntries = .ok default := by
    rw [Outcome.ok_bind, ofEntries_nil]
  unfold load
  split
  case h_1 => exact hnone.symm
  case h_2 => exact hnone.symm
  case h_3 path hpath => rw [readSettings_some hpath]

/-- The thresholds of a mapping, with the defaults for those it leaves out, are numbers that can be used and in
order. -/
def ThresholdsHold (m : Entries) : Prop :=
  ∃ low high : Number, (m.field? Bound.low.key).getD (.number default.low) = .number low ∧
    (m.field? Bound.high.key).getD (.number default.high) = .number high ∧
    low.isUsable = true ∧ high.isUsable = true ∧ low < high

theorem thresholdsHold_of_ok (h : ofEntries m = .ok o) : ThresholdsHold m := by
  obtain ⟨-, -, -, hlow, hhigh⟩ := ofEntriesOver_eq_ok.mp h
  exact ⟨o.low, o.high, hlow, hhigh, o.low_usable, o.high_usable, o.low_lt_high⟩

theorem ofEntries_update_eq_error {e : Failure} (hm : ThresholdsHold m) (h : ofEntries m = .error e) {top : Entries}
    (hd : top.Distinct) (hkeys : top.stranger? isKey = none) (hproducer : top.field? producerKey = none)
    (hborder : top.field? borderKey = none) : ofEntries (m.update top) = .error e := by
  obtain ⟨low, high, hlow, hhigh, hlow_usable, hhigh_usable, hlt⟩ := hm
  unfold ofEntries at h ⊢
  rw [ofEntriesOver_eq, hlow, hhigh] at h
  rw [ofEntriesOver_eq, Entries.stranger?_update isKey_congr, hkeys, Option.or_none]
  simp only [Entries.field?_update hd, hproducer, hborder, Option.none_or]
  cases hstranger : m.stranger? isKey with
  | some k => rw [hstranger] at h; exact h
  | none =>
    rw [hstranger] at h
    exact check_eq_error hlow_usable hhigh_usable hlt h _ _

end Options

namespace CommandLine

open Options

variable {w : Workspace} {c : Common} {m : Entries} {o : Options}

/-! ## Overrides -/

theorem overrides_distinct (c : Common) : (overrides c).Distinct := by
  unfold overrides
  cases c.low <;> cases c.high <;> simp [Entries.Distinct, Value.sameKey, Bound.key]

theorem overrides_stranger? (c : Common) : (overrides c).stranger? isKey = none := by
  unfold overrides
  cases c.low <;> cases c.high <;> rfl

theorem overrides_field?_producerKey (c : Common) : (overrides c).field? producerKey = none := by
  unfold overrides
  cases c.low <;> cases c.high <;> rfl

theorem overrides_field?_borderKey (c : Common) : (overrides c).field? borderKey = none := by
  unfold overrides
  cases c.low <;> cases c.high <;> rfl

/-! ## Options of a run -/

theorem loadOptions_of_accepted (hfile : readSettings w.yaml w.files c.configPath = .ok m) (hm : ofEntries m = .ok o) :
    loadOptions w c = ofEntries (m.update (overrides c)) := by
  unfold loadOptions
  rw [load_eq, hfile, Outcome.ok_bind, hm, Outcome.ok_bind]
  split
  case isTrue hnone => rw [hnone, Entries.update_nil, hm]; rfl
  case isFalse => exact ofEntriesOver_update hm (overrides_distinct c)

theorem loadOptions_of_refused {e : Failure} (hfile : readSettings w.yaml w.files c.configPath = .ok m)
    (hm : ofEntries m = .error e) : loadOptions w c = .error e := by
  unfold loadOptions
  rw [load_eq, hfile, Outcome.ok_bind, hm]; rfl

theorem loadOptions_of_thresholdsHold (hfile : readSettings w.yaml w.files c.configPath = .ok m)
    (hm : ThresholdsHold m) : loadOptions w c = ofEntries (m.update (overrides c)) := by
  cases h : ofEntries m with
  | ok o => exact loadOptions_of_accepted hfile h
  | error e =>
    rw [loadOptions_of_refused hfile h]
    exact (ofEntries_update_eq_error hm h (overrides_distinct c) (overrides_stranger? c)
      (overrides_field?_producerKey c) (overrides_field?_borderKey c)).symm

theorem loadOptions_of_not_thresholdsHold (hfile : readSettings w.yaml w.files c.configPath = .ok m)
    (hm : ¬ ThresholdsHold m) : ∃ e, ofEntries m = .error e ∧ loadOptions w c = .error e := by
  cases h : ofEntries m with
  | ok o => exact absurd (thresholdsHold_of_ok h) hm
  | error e => exact ⟨e, rfl, loadOptions_of_refused hfile h⟩

/-- **The command line overrides a file whose own thresholds hold.** Then a run has the options of the file's mapping
with the given thresholds put over it, or is refused as that mapping is. If they do not hold, the run is refused, also
where the thresholds put over them would mend them. -/
theorem options_of_run (hfile : readSettings w.yaml w.files c.configPath = .ok m) :
    (ThresholdsHold m → loadOptions w c = ofEntries (m.update (overrides c))) ∧
    (¬ ThresholdsHold m → ∃ e, ofEntries m = .error e ∧ loadOptions w c = .error e) ∧
    ((∀ o, loadOptions w c = .ok o ↔ ofEntries (m.update (overrides c)) = .ok o) ↔
      ThresholdsHold m ∨ ∀ o, ofEntries (m.update (overrides c)) ≠ .ok o) := by
  refine ⟨loadOptions_of_thresholdsHold hfile, loadOptions_of_not_thresholdsHold hfile, ?_⟩
  constructor
  · intro hsame
    by_cases hm : ThresholdsHold m
    · exact .inl hm
    · obtain ⟨e, -, he⟩ := loadOptions_of_not_thresholdsHold hfile hm
      refine .inr fun o ho => ?_
      rw [(hsame o).mpr ho] at he
      cases he
  · rintro (hm | hnone) o
    · rw [loadOptions_of_thresholdsHold hfile hm]
    · by_cases hm : ThresholdsHold m
      · rw [loadOptions_of_thresholdsHold hfile hm]
      · obtain ⟨e, -, he⟩ := loadOptions_of_not_thresholdsHold hfile hm
        simp [he, hnone o]

/-! ## Two files -/

theorem readSettings_json {yaml : Yaml.Reader} {fs : Files} {path text : String} {es : Entries} (hpath : path ≠ "")
    (htext : readText fs path = .ok text) (hkind : (Path.ofText path).kind = ".json")
    (hread : Json.read text = .ok (.map es)) : readSettings yaml fs (some path) = .ok (settingsOf es) := by
  have hjson : readJson path text = .ok (.map es) := by
    unfold readJson; rw [hread]
  rw [readSettings_some hpath, readEntries, htext, Outcome.ok_bind, if_pos hkind, hjson]
  rfl

theorem kind_json : (Path.ofText "k.json").kind = ".json" := by
  have hpath : Path.ofText "k.json" = ⟨"", ["k.json"]⟩ := by cbv
  rw [kind_eq_json_iff, IsJsonPath, hpath]
  decide

theorem isUsable_int {n : Int} (h : n.natAbs < 2 ^ 53) : Number.isUsable (.int n) = true :=
  Binary64.ofInt?_isSome_of_lt h

def narrowFile : Files where
  contents := [(["k.json"], Utf8.encode "\x7b\x22threshold_low\x22: 3, \x22threshold_high\x22: 5\x7d")]

theorem readSettings_narrow (yaml : Yaml.Reader) :
    readSettings yaml narrowFile (some "k.json") = .ok narrowEntries := by
  have htext : readText narrowFile "k.json" = .ok "\x7b\x22threshold_low\x22: 3, \x22threshold_high\x22: 5\x7d" := by
    cbv
  have hread : Json.read "\x7b\x22threshold_low\x22: 3, \x22threshold_high\x22: 5\x7d" = .ok (.map narrowEntries) := by
    cbv
  rw [readSettings_json (by decide) htext kind_json hread]
  rfl

/-- Either threshold alone would be refused, over the file or over the defaults. -/
def widened : Common where
  path := "a.py"
  configPath := some "k.json"
  low := some (.value (.ofDecimal false 15 0))
  high := some (.value (.ofDecimal false 30 0))

theorem options_of_run_widened :
    ThresholdsHold narrowEntries ∧
    loadOptions (installed {} narrowFile none) widened = ofEntries (narrowEntries.update (overrides widened)) := by
  have hhold : ThresholdsHold narrowEntries :=
    ⟨3, 5, rfl, rfl, isUsable_int (by decide), isUsable_int (by decide), by decide⟩
  exact ⟨hhold, (options_of_run (w := installed {} narrowFile none) (readSettings_narrow _)).1 hhold⟩

def steepFile : Files where
  contents := [(["k.json"], Utf8.encode "\x7b\x22threshold_low\x22: 20\x7d")]

def steepEntries : Entries := [(.text Bound.low.key, .int 20)]

theorem readSettings_steep (yaml : Yaml.Reader) : readSettings yaml steepFile (some "k.json") = .ok steepEntries := by
  have htext : readText steepFile "k.json" = .ok "\x7b\x22threshold_low\x22: 20\x7d" := by cbv
  have hread : Json.read "\x7b\x22threshold_low\x22: 20\x7d" = .ok (.map steepEntries) := by cbv
  rw [readSettings_json (by decide) htext kind_json hread]
  rfl

theorem ofEntries_steep : ofEntries steepEntries = refuseConfig (.notLower 20 12) :=
  check_of_not_lt (isUsable_int (by decide)) (isUsable_int (by decide)) (by decide)

def lowered : Common where
  path := "a.py"
  configPath := some "k.json"
  low := some (.value (.ofDecimal false 5 0))

/-- A low threshold above the default high one is refused, though the command line puts another one in its place. -/
theorem overridden_threshold_refused :
    readSettings Yaml.reader steepFile lowered.configPath = .ok steepEntries ∧
    ofEntries (steepEntries.update (overrides lowered)) =
      .ok { low := .float (.ofDecimal false 5 0), high_usable := Options.default.high_usable } ∧
    loadOptions (installed {} steepFile none) lowered = refuseConfig (.notLower 20 12) := by
  refine ⟨readSettings_steep _, ofEntriesOver_eq_ok.mpr ⟨rfl, rfl, rfl, rfl, rfl⟩, ?_⟩
  exact loadOptions_of_refused (w := installed {} steepFile none) (readSettings_steep _) ofEntries_steep

end CommandLine

end FunctionMetrics
