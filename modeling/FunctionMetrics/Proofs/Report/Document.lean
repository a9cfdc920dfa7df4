import FunctionMetrics.Report.Document
import FunctionMetrics.Proofs.CommandLine.Printed
import FunctionMetrics.Proofs.Json.Writing
import FunctionMetrics.Proofs.Text.Utf8

/-!
# Reports that are read back

The document of a report is ASCII whatever the names and the path are made of. It spells the records of all units in
their order, and a reader gets them back.
-/

namespace FunctionMetrics

/-! ## Records -/

namespace Measurement

/-- What a document tells about a unit; a range is a list of four whole numbers. -/
def record (m : Measurement) (message : String) : Value :=
  let places (r : Range) : Value := .list [.int r.start.row, .int r.start.column, .int r.stop.row, .int r.stop.column]
  .map [(.text "name", .text m.name), (.text "name_range", places m.nameRange),
    (.text "unit_range", places m.unitRange), (.text "score", .number m.score),
    (.text "severity", .text m.severity.name), (.text "message", .text message)]

/-- The record of a measurement. Its score is finite, so it is equal to itself. -/
def IsRecord (m : Measurement) (v : Value) : Prop :=
  m.score.isFinite = true ∧ ∃ message, m.message = .ok message ∧ v = m.record message

end Measurement

theorem Number.length_le_of_digits? {n : Int} (h : (digits? n).isSome = true) :
    (Nat.toDigits 10 n.natAbs).length ≤ maxDigits := by
  have hlength : (toString n.natAbs).length = (Nat.toDigits 10 n.natAbs).length := by
    rw [Nat.toString_eq_ofList_toDigits, String.length_ofList]
  by_contra hlong
  have hnone : digits? n = none := if_pos (by omega)
  rw [hnone] at h
  cases h

theorem Range.plain_toValue {fits : Nat → Prop} {r : Range}
    (h : ∀ n ∈ r.toList, fits (Nat.toDigits 10 n.natAbs).length) : Json.Plain fits r.toValue := by
  apply Json.Plain.list
  intro v hv
  obtain ⟨n, hn, rfl⟩ := List.mem_map.mp hv
  exact .int (h n hn)

namespace Printed

variable {fits : Nat → Prop} {p : Printed}

theorem toValue_eq_record (p : Printed) : p.toValue = p.unit.record p.message := rfl

theorem plain_toValue {x : Binary64} (hscore : p.unit.score = .float x) (hfinite : x.isFinite = true)
    (hfits : ∀ n ∈ p.unit.nameRange.toList ++ p.unit.unitRange.toList, fits (Nat.toDigits 10 n.natAbs).length) :
    Json.Plain fits p.toValue := by
  have hname : Json.Plain fits p.unit.nameRange.toValue :=
    Range.plain_toValue fun n hn => hfits n (List.mem_append_left _ hn)
  have hunit : Json.Plain fits p.unit.unitRange.toValue :=
    Range.plain_toValue fun n hn => hfits n (List.mem_append_right _ hn)
  have hfloat : Json.Plain fits (.number p.unit.score) := by
    rw [hscore]
    exact .float hfinite
  refine .map ?_ ?_ ?_
  · simp [Entries.Distinct, Value.sameKey]
  · simp
  · simp [hname, hunit, hfloat, Json.Plain.text]

end Printed

/-! ## Documents -/

namespace Report

variable {root : Option Node} {t : Thresholds} {r : Report}

theorem score_of_mem (h : ofTree root t .cyclomatic = .ok r) {m : Measurement} (hm : m ∈ r) :
    ∃ x, m.score = .float x ∧ x.isFinite = true := by
  obtain ⟨unit, hunit⟩ := exists_unit_of_mem h hm
  obtain ⟨name, -, rfl⟩ := Measurement.of_eq_ok.mp hunit
  exact ⟨_, rfl, complexity_isFinite unit⟩

theorem plain_document {fits : Nat → Prop} {units : List Value} (h : ∀ v ∈ units, Json.Plain fits v) (path : String) :
    Json.Plain fits (document path units) := by
  refine .map ?_ ?_ ?_
  · simp [Entries.Distinct, Value.sameKey]
  · simp
  · simp [Json.Plain.text, Json.Plain.list h]

theorem encode_name {unit : Node} {metric : Metric} {m : Measurement} (h : Measurement.Describes t metric unit m) :
    ∃ name, unit.findName = .found name ∧ ∀ s, Utf8.encode s = name.text → Utf8.encode m.name = name.text := by
  obtain ⟨name, hname, htext, -⟩ := h.named
  refine ⟨name, hname, fun s hs => ?_⟩
  rw [htext, ← hs, Utf8.decodeLossy_encode]

/-- **A report is read back without loss.** Its document is one value in ASCII, and spells the path and the record of
each unit, in the order of the report. It is written and a reader gets this value back, unless a number in a range has
too many digits to be written at all. A name that was read from UTF-8 comes back as the same bytes. -/
theorem json_reads_back (h : ofTree root t .cyclomatic = .ok r) (path : String) :
    ∃ text units, (r.toJson path = if ∀ m ∈ r, m.Fits then .ok text else fail .unwritable) ∧ Text.IsAscii text ∧
      Json.IsDocument (fun _ => True) text.toList (document path units) ∧
      ((∀ m ∈ r, m.Fits) → Json.read text = .ok (document path units)) ∧
      List.Forall₂ Measurement.IsRecord r units ∧
      List.Forall₂ (fun unit m => ∃ name, unit.findName = .found name ∧
        ∀ s, Utf8.encode s = name.text → Utf8.encode m.name = name.text) (root.elim [] Node.units) r := by
  obtain ⟨ps, hps⟩ := Printed.exists_of_report h
  have hscore : ∀ p ∈ ps, ∃ x, p.unit.score = .float x ∧ x.isFinite = true := fun p hp =>
    score_of_mem h (hps ▸ List.mem_map_of_mem hp)
  have hplain : ∀ fits : Nat → Prop, (∀ p ∈ ps, ∀ n ∈ p.unit.nameRange.toList ++ p.unit.unitRange.toList,
      fits (Nat.toDigits 10 n.natAbs).length) → Json.Plain fits (document path (ps.map Printed.toValue)) := by
    intro fits hfits
    apply plain_document
    intro v hv
    obtain ⟨p, hp, rfl⟩ := List.mem_map.mp hv
    obtain ⟨x, hx, hfinite⟩ := hscore p hp
    exact Printed.plain_toValue hx hfinite (hfits p hp)
  have hjson : r.toJson path = if ∀ m ∈ r, m.Fits then .ok (CommandLine.render .json path ps) else fail .unwritable := by
    rw [← hps, CommandLine.toJson_units, CommandLine.canPrint]
    simp [fail]
  refine ⟨CommandLine.render .json path ps, ps.map Printed.toValue, hjson, Json.isAscii_writeAt 0 _, ?_, ?_, ?_, ?_⟩
  case refine_1 => exact Json.isDocument_write (hplain _ fun _ _ _ _ => trivial)
  case refine_2 =>
    intro hfits
    apply Json.read_write
    apply hplain
    intro p hp n hn
    exact Number.length_le_of_digits? (hfits p.unit (hps ▸ List.mem_map_of_mem hp) n hn)
  case refine_3 =>
    rw [← hps, List.forall₂_map_left_iff, List.forall₂_map_right_iff, List.forall₂_same]
    intro p hp
    obtain ⟨x, hx, hfinite⟩ := hscore p hp
    exact ⟨by rw [hx]; exact hfinite, p.message, p.message_eq, p.toValue_eq_record⟩
  case refine_4 =>
    cases root with
    | none => cases h; exact .nil
    | some root => exact (ofTree_eq_ok.mp h).imp fun _ _ hm => encode_name (Measurement.of_eq_ok_iff_describes.mp hm)

def quotedName : Node where
  kind := "identifier"
  range := ⟨⟨0, 4⟩, ⟨1, 4⟩⟩
  text := [34, 92, 10, 0xF0, 0x9F, 0x98, 0x80]

def quoted : Node where
  kind := "function_definition"
  range := ⟨⟨0, 0⟩, ⟨2, 8⟩⟩
  children := [quotedName]

theorem findName_quoted : quoted.findName = .found quotedName := by
  rw [Node.findName]
  rfl

theorem json_reads_back_quoted :
    ∃ m, ofTree (some quoted) {} .cyclomatic = .ok [m] ∧ Utf8.encode m.name = [34, 92, 10, 0xF0, 0x9F, 0x98, 0x80] ∧
      ∃ text v, toJson "é.py" [m] = .ok text ∧ Text.IsAscii text ∧
        Json.read text = .ok (document "é.py" [v]) ∧ m.IsRecord v := by
  have hunits : quoted.units = [quoted] := by
    rw [Node.units_eq_filter_preorder]
    rfl
  obtain ⟨m, hm⟩ : ∃ m, m = Measurement.named quoted quotedName {} .cyclomatic := ⟨_, rfl⟩
  have hr : ofTree (some quoted) {} .cyclomatic = .ok [m] := by
    rw [ofTree_eq_ok, hunits, hm]
    exact .cons (Measurement.of_found findName_quoted) .nil
  have hfits : ∀ m' ∈ [m], m'.Fits := by
    intro m' hm'
    rw [List.mem_singleton.mp hm', hm]
    decide
  obtain ⟨text, units, htext, hascii, -, hread, hrecords, hnames⟩ := json_reads_back hr "é.py"
  obtain ⟨v, rfl, hv⟩ : ∃ v, units = [v] ∧ m.IsRecord v := by
    cases hrecords with
    | cons hv hnil => cases hnil; exact ⟨_, rfl, hv⟩
  have hname : Utf8.encode m.name = quotedName.text := by
    simp only [Option.elim, hunits] at hnames
    obtain ⟨name, hfound, hbytes⟩ := (List.forall₂_cons.mp hnames).1
    obtain rfl : name = quotedName := by
      rw [findName_quoted] at hfound
      exact (Node.Search.found.inj hfound).symm
    exact hbytes "\"\\\n😀" (by decide)
  rw [if_pos hfits] at htext
  exact ⟨m, hr, hname, text, v, htext, hascii, hread hfits, hv⟩

end Report

end FunctionMetrics
