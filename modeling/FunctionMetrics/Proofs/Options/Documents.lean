import FunctionMetrics.Proofs.CommandLine.Thresholds
import FunctionMetrics.Proofs.Options.Refusals
import FunctionMetrics.Yaml.Reader

/-!
# Documents of options

What a file gives hangs on the shape of the value that its text spells: a mapping, or one in the section of a mapping.
JSON and YAML give the same for it, unless it is no mapping and empty: then JSON refuses it, and YAML takes it for no
settings.
-/

namespace FunctionMetrics

namespace Value

variable {v : Value} {es : Entries}

/-! ## Empty values -/

theorem isEmpty_iff_of_map (h : v.unfold = .map es) : v.isEmpty = true ↔ es = [] := by
  cases v with
  | map es' =>
    cases h
    cases es <;> simp [isEmpty, outermost]
  | knot cells start =>
    rw [unfold] at h
    unfold isEmpty
    rw [outermost]
    split at h
    case h_1 => cases h
    case h_2 es' hcell =>
      cases h
      rw [hcell]
      cases es' <;> simp
    case h_3 hlist hmap => exact absurd h (hmap es)
  | _ => cases h

theorem isEmpty_of_null (h : v.unfold = .null) : v.isEmpty = true := by
  cases v with
  | null => rfl
  | knot cells start =>
    rw [unfold] at h
    unfold isEmpty
    rw [outermost]
    split at h
    case h_1 => cases h
    case h_2 => cases h
    case h_3 => rw [h]
  | _ => cases h

end Value

namespace Options

variable {yaml : Yaml.Reader} {fs : Files} {path : String} {v : Value} {es inner : Entries} {o : Options}

/-! ## Formats -/

/-- The text of a file spells a value in the format that its path names. -/
def Parses (yaml : Yaml.Reader) (fs : Files) (path : String) (v : Value) : Prop :=
  ∃ text, readText fs path = .ok text ∧
    (IsJsonPath path ∧ Json.read text = .ok v ∨ ¬ IsJsonPath path ∧ yaml text = .ok v)

/-! ## Shapes -/

def entriesOf (path : String) (v : Value) : Outcome Entries :=
  match v.unfold with
  | .map es => .ok (settingsOf es)
  | _ => refuseConfig (.notAMapping path)

theorem entriesOf_of_map (h : v.unfold = .map es) : entriesOf path v = .ok (settingsOf es) := by
  unfold entriesOf
  rw [h]

theorem entriesOf_of_not_map (h : ∀ es, v.unfold ≠ .map es) : entriesOf path v = refuseConfig (.notAMapping path) := by
  unfold entriesOf
  split
  case h_1 es hes => exact absurd hes (h es)
  case h_2 => rfl

theorem settingsOf_of_section (h : (es.field? sectionKey).map Value.unfold = some (.map inner)) :
    settingsOf es = inner := by
  unfold settingsOf
  rw [h]

theorem settingsOf_of_no_section (h : ∀ inner, (es.field? sectionKey).map Value.unfold ≠ some (.map inner)) :
    settingsOf es = es := by
  unfold settingsOf
  split
  case h_1 inner hinner => exact absurd hinner (h inner)
  case h_2 => rfl

/-! ## Files -/

theorem readEntries_json {text : String} (hjson : IsJsonPath path) (htext : readText fs path = .ok text) :
    readEntries yaml fs path = readJson path text >>= entriesOf path := by
  rw [readEntries, htext, Outcome.ok_bind, if_pos (kind_eq_json_iff.mpr hjson)]
  rfl

theorem readEntries_yaml {text : String} (hyaml : ¬ IsJsonPath path) (htext : readText fs path = .ok text) :
    readEntries yaml fs path = readYaml yaml path text >>= entriesOf path := by
  rw [readEntries, htext, Outcome.ok_bind, if_neg (mt kind_eq_json_iff.mp hyaml)]
  rfl

theorem readSettings_of_json (hpath : path ≠ "") (hjson : IsJsonPath path) (h : Parses yaml fs path v) :
    readSettings yaml fs (some path) = entriesOf path v := by
  obtain ⟨text, htext, ⟨-, hread⟩ | ⟨hyaml, -⟩⟩ := h
  · rw [readSettings_some hpath, readEntries_json hjson htext, readJson, hread, Outcome.ok_bind]
  · exact absurd hjson hyaml

theorem readSettings_of_yaml (hpath : path ≠ "") (hyaml : ¬ IsJsonPath path) (h : Parses yaml fs path v) :
    readSettings yaml fs (some path) = if v.isEmpty then .ok [] else entriesOf path v := by
  obtain ⟨text, htext, ⟨hjson, -⟩ | ⟨-, hread⟩⟩ := h
  · exact absurd hjson hyaml
  · rw [readSettings_some hpath, readEntries_yaml hyaml htext, readYaml, hread, Outcome.ok_bind]
    cases v.isEmpty <;> rfl

theorem readSettings_of_map (hpath : path ≠ "") (h : Parses yaml fs path v) (hmap : v.unfold = .map es) :
    readSettings yaml fs (some path) = .ok (settingsOf es) := by
  have hentries : entriesOf path v = .ok (settingsOf es) := entriesOf_of_map hmap
  by_cases hjson : IsJsonPath path
  · rw [readSettings_of_json hpath hjson h, hentries]
  · rw [readSettings_of_yaml hpath hjson h, hentries]
    cases hempty : v.isEmpty with
    | true =>
      obtain rfl := (Value.isEmpty_iff_of_map hmap).mp hempty
      rfl
    | false => rfl

theorem readSettings_of_not_map (hpath : path ≠ "") (h : Parses yaml fs path v) (hmap : ∀ es, v.unfold ≠ .map es)
    (hrefused : IsJsonPath path ∨ v.isEmpty = false) :
    readSettings yaml fs (some path) = refuseConfig (.notAMapping path) := by
  rw [← entriesOf_of_not_map hmap]
  by_cases hjson : IsJsonPath path
  · exact readSettings_of_json hpath hjson h
  · rw [readSettings_of_yaml hpath hjson h, hrefused.resolve_left hjson]
    rfl

theorem load_of_map (hpath : path ≠ "") (h : Parses yaml fs path v) (hmap : v.unfold = .map es) :
    load yaml fs (some path) = ofValue (.map (settingsOf es)) := by
  rw [load_eq, readSettings_of_map hpath h hmap, Outcome.ok_bind, ofValue_map]

theorem load_of_not_map (hpath : path ≠ "") (h : Parses yaml fs path v) (hmap : ∀ es, v.unfold ≠ .map es)
    (hrefused : IsJsonPath path ∨ v.isEmpty = false) :
    load yaml fs (some path) = refuseConfig (.notAMapping path) := by
  rw [load_eq, readSettings_of_not_map hpath h hmap hrefused]
  rfl

theorem load_of_empty (hpath : path ≠ "") (h : Parses yaml fs path v) (hyaml : ¬ IsJsonPath path)
    (hempty : v.isEmpty = true) : load yaml fs (some path) = .ok default := by
  rw [load_eq, readSettings_of_yaml hpath hyaml h, if_pos hempty, Outcome.ok_bind, ofEntries_nil]

/-- **A document gives the options of its mapping.** These are those of the section if there is one. A document that is
no mapping is refused, but in YAML one that is empty gives all by default, be it null, false, zero, or an empty text or
row. So the two formats part over such values, and over no others. -/
theorem document_gives_options (hpath : path ≠ "") (hparse : Parses yaml fs path v) :
    (∀ es : Entries, v.unfold = .map es →
      (∀ inner, (es.field? sectionKey).map Value.unfold = some (.map inner) →
        load yaml fs (some path) = ofValue (.map inner)) ∧
      ((∀ inner, (es.field? sectionKey).map Value.unfold ≠ some (.map inner)) →
        load yaml fs (some path) = ofValue (.map es))) ∧
    (v.unfold = .null → ¬ IsJsonPath path → load yaml fs (some path) = .ok default) ∧
    ((∀ es, v.unfold ≠ .map es) →
      (IsJsonPath path ∨ v.isEmpty = false → load yaml fs (some path) = refuseConfig (.notAMapping path)) ∧
      (¬ IsJsonPath path → v.isEmpty = true → load yaml fs (some path) = .ok default)) ∧
    ∀ fs' path', path' ≠ "" → Parses yaml fs' path' v → IsJsonPath path → ¬ IsJsonPath path' →
      ((∀ o, load yaml fs (some path) = .ok o ↔ load yaml fs' (some path') = .ok o) ↔
        (∃ es, v.unfold = .map es) ∨ v.isEmpty = false) := by
  refine ⟨?_, ?_, ?_, ?_⟩
  case refine_1 =>
    intro es hmap
    rw [load_of_map hpath hparse hmap]
    constructor
    · intro inner hsection
      rw [settingsOf_of_section hsection]
    · intro hsection
      rw [settingsOf_of_no_section hsection]
  case refine_2 =>
    intro hnull hyaml
    exact load_of_empty hpath hparse hyaml (Value.isEmpty_of_null hnull)
  case refine_3 =>
    intro hmap
    exact ⟨load_of_not_map hpath hparse hmap, load_of_empty hpath hparse⟩
  case refine_4 =>
    intro fs' path' hpath' hparse' hjson hyaml
    by_cases hmap : ∃ es, v.unfold = .map es
    · obtain ⟨es, hes⟩ := hmap
      simp [load_of_map hpath hparse hes, load_of_map hpath' hparse' hes, hes]
    · have hmap : ∀ es, v.unfold ≠ .map es := fun es hes => hmap ⟨es, hes⟩
      rw [load_of_not_map hpath hparse hmap (.inl hjson)]
      cases hempty : v.isEmpty with
      | false => simp [load_of_not_map hpath' hparse' hmap (.inr hempty), refuseConfig, refuse]
      | true => simp [load_of_empty hpath' hparse' hyaml hempty, hmap, refuseConfig, refuse]

/-! ## Two files -/

def bothFiles (text : String) : Files where
  contents := [(["k.JSON"], Utf8.encode text), (["k.yaml"], Utf8.encode text)]

def sectionText : String := "\x7b\x22kokwame\x22: \x7b\x7d\x7d"

def sectionDocument : Value := .map [(.text sectionKey, .map [])]

theorem isJsonPath_capitals : IsJsonPath "k.JSON" := by
  have hpath : Path.ofText "k.JSON" = ⟨"", ["k.JSON"]⟩ := by cbv
  rw [IsJsonPath, hpath]
  decide

theorem not_isJsonPath_yaml : ¬ IsJsonPath "k.yaml" := by
  have hpath : Path.ofText "k.yaml" = ⟨"", ["k.yaml"]⟩ := by cbv
  rw [IsJsonPath, hpath]
  decide

theorem parses_json {text : String} (htext : readText fs "k.JSON" = .ok text) (hread : Json.read text = .ok v) :
    Parses yaml fs "k.JSON" v := ⟨text, htext, .inl ⟨isJsonPath_capitals, hread⟩⟩

theorem parses_yaml {text : String} (htext : readText fs "k.yaml" = .ok text) (hread : yaml text = .ok v) :
    Parses yaml fs "k.yaml" v := ⟨text, htext, .inr ⟨not_isJsonPath_yaml, hread⟩⟩

/-- The key of the section would be refused in the place of a setting. -/
theorem document_gives_options_section :
    load Yaml.reader (bothFiles sectionText) (some "k.JSON") = ofValue (.map []) ∧
    load Yaml.reader (bothFiles sectionText) (some "k.yaml") = ofValue (.map []) := by
  have hjson : Parses Yaml.reader (bothFiles sectionText) "k.JSON" sectionDocument := parses_json (by cbv) (by cbv)
  have hyaml : Parses Yaml.reader (bothFiles sectionText) "k.yaml" sectionDocument := parses_yaml (by cbv) (by cbv)
  exact ⟨((document_gives_options (by decide) hjson).1 _ rfl).1 _ rfl,
    ((document_gives_options (by decide) hyaml).1 _ rfl).1 _ rfl⟩

/-- An empty row is no mapping, and yet it is refused in only one format. -/
theorem empty_row_not_refused :
    Parses Yaml.reader (bothFiles "[]") "k.yaml" (.list []) ∧
    load Yaml.reader (bothFiles "[]") (some "k.yaml") = .ok default ∧
    Parses Yaml.reader (bothFiles "[]") "k.JSON" (.list []) ∧
    load Yaml.reader (bothFiles "[]") (some "k.JSON") = refuseConfig (.notAMapping "k.JSON") := by
  have hyaml : Parses Yaml.reader (bothFiles "[]") "k.yaml" (.list []) := parses_yaml (by cbv) (by cbv)
  have hjson : Parses Yaml.reader (bothFiles "[]") "k.JSON" (.list []) := parses_json (by cbv) (by cbv)
  have hmap : ∀ es, Value.unfold (.list []) ≠ .map es := by
    intro es h
    cases h
  exact ⟨hyaml, load_of_empty (by decide) hyaml not_isJsonPath_yaml rfl, hjson,
    load_of_not_map (by decide) hjson hmap (.inl isJsonPath_capitals)⟩

end Options

end FunctionMetrics
