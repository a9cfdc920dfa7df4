import FunctionMetrics.CommandLine.Program
import FunctionMetrics.Proofs.Analysis.Report
import FunctionMetrics.Proofs.Number.Limits

/-!
# What is printed

Both formats print the units of a report in its order. A line of text has to hold the place of the name, and a document
the ranges of the name and the unit; a place has too many digits only far beyond what a file can hold.
-/

namespace FunctionMetrics

/-! ## Units -/

/-- No number in the ranges has too many digits to be written or read. -/
def Measurement.Fits (m : Measurement) : Prop :=
  ∀ n ∈ m.nameRange.toList ++ m.unitRange.toList, (Number.digits? n).isSome = true

instance (m : Measurement) : Decidable m.Fits :=
  inferInstanceAs (Decidable (∀ n ∈ m.nameRange.toList ++ m.unitRange.toList, (Number.digits? n).isSome = true))

structure Printed where
  unit : Measurement
  message : String
  message_eq : unit.message = .ok message

namespace Printed

def row (p : Printed) : Int := p.unit.nameRange.start.row + 1

def column (p : Printed) : Int := p.unit.nameRange.start.column + 1

def label (p : Printed) : String := p.unit.severity.label

def severityName (p : Printed) : String := p.unit.severity.name

def line (path : String) (p : Printed) : String :=
  path ++ ":" ++ toString p.row ++ ":" ++ toString p.column ++ ": " ++ p.label ++ " " ++ p.message ++ " (" ++
    p.unit.name ++ ")"

def toValue (p : Printed) : Value :=
  .map [(.text "name", .text p.unit.name), (.text "name_range", p.unit.nameRange.toValue),
    (.text "unit_range", p.unit.unitRange.toValue), (.text "score", .number p.unit.score),
    (.text "severity", .text p.severityName), (.text "message", .text p.message)]

def isWritable (p : Printed) : Bool := (Number.digits? p.row).isSome && (Number.digits? p.column).isSome

theorem isWritable_score (p : Printed) : Json.isWritable (.number p.unit.score) = true := by
  obtain ⟨text, htext, -⟩ := Outcome.map_eq_ok.mp p.message_eq
  cases hscore : p.unit.score with
  | float x => rfl
  | int n =>
    rw [hscore, scoreText] at htext
    rw [Json.isWritable]
    cases hdigits : Number.digits? n with
    | some ds => rfl
    | none =>
      rw [hdigits] at htext
      cases htext

theorem isWritable_places (r : Range) :
    Json.isWritable r.toValue = r.toList.all fun n => (Number.digits? n).isSome := by
  simp [Range.toValue, Range.toList, Value.int, Json.isWritable, Json.areWritable]

theorem isWritable_text (s : String) : Json.isWritable (.text s) = true := by simp [Json.isWritable]

theorem isWritable_toValue (p : Printed) : Json.isWritable p.toValue = decide p.unit.Fits := by
  rw [toValue, Json.isWritable]
  simp only [Json.entriesWritable, isWritable_text, isWritable_places, p.isWritable_score, Bool.true_and, Bool.and_true]
  rw [Bool.eq_iff_iff, Bool.and_eq_true, List.all_eq_true, List.all_eq_true, decide_eq_true_eq, Measurement.Fits,
    List.forall_mem_append]

theorem toValue_unit (p : Printed) : p.unit.toValue = .ok p.toValue := by
  rw [Measurement.toValue, p.message_eq]; rfl

theorem line_unit (path : String) (p : Printed) :
    Report.line path p.unit = if p.isWritable then .ok (p.line path) else .error (.fault .unwritable) := by
  have hrow : Report.line path p.unit = written (Number.digits? p.row) >>= fun row =>
      written (Number.digits? p.column) >>= fun column => p.unit.message >>= fun message =>
      .ok (path ++ ":" ++ row ++ ":" ++ column ++ ": " ++ p.label ++ " " ++ message ++ " (" ++ p.unit.name ++ ")") := rfl
  rw [hrow, p.message_eq]
  unfold isWritable
  cases hr : (Number.digits? p.row).isSome with
  | false => rw [Option.isSome_eq_false_iff, Option.isNone_iff_eq_none] at hr; rw [hr]; rfl
  | true =>
    rw [Number.digits?_eq hr]
    cases hc : (Number.digits? p.column).isSome with
    | false => rw [Option.isSome_eq_false_iff, Option.isNone_iff_eq_none] at hc; rw [hc]; rfl
    | true => rw [Number.digits?_eq hc]; rfl

theorem exists_of_report {root : Option Node} {t : Thresholds} {r : Report}
    (h : Report.ofTree root t .cyclomatic = .ok r) : ∃ ps : List Printed, ps.map unit = r := by
  have hmessage : ∀ m ∈ r, ∃ text, m.message = .ok text := fun m hm => Report.message_of_mem h hm
  clear h
  induction r with
  | nil => exact ⟨[], rfl⟩
  | cons m rest ih =>
    obtain ⟨text, htext⟩ := hmessage m (by simp)
    obtain ⟨ps, hps⟩ := ih fun m hm => hmessage m (by simp [hm])
    exact ⟨⟨m, text, htext⟩ :: ps, by simp [hps]⟩

end Printed

/-! ## Reports -/

def Report.document (path : String) (units : List Value) : Value :=
  .map [(.text "path", .text path), (.text "units", .list units)]

namespace CommandLine

def render (format : OutputFormat) (path : String) (ps : List Printed) : String :=
  match format with
  | .text => String.join (ps.map fun p => p.line path ++ "\n")
  | .json => Json.write (Report.document path (ps.map Printed.toValue))

def canPrint (format : OutputFormat) (ps : List Printed) : Bool :=
  match format with
  | .text => ps.all Printed.isWritable
  | .json => ps.all fun p => decide p.unit.Fits

theorem mapM_line (path : String) (ps : List Printed) :
    (ps.map Printed.unit).mapM (Report.line path) =
      if ps.all Printed.isWritable then .ok (ps.map (Printed.line path)) else .error (.fault .unwritable) := by
  induction ps with
  | nil => rfl
  | cons p rest ih =>
    rw [List.map_cons, List.mapM_cons, Printed.line_unit, ih, List.all_cons]
    cases p.isWritable with
    | false => rfl
    | true => cases rest.all Printed.isWritable <;> rfl

theorem mapM_toValue (ps : List Printed) :
    (ps.map Printed.unit).mapM Measurement.toValue = .ok (ps.map Printed.toValue) := by
  rw [Outcome.mapM_eq_ok, List.forall₂_map_left_iff, List.forall₂_map_right_iff, List.forall₂_same]
  exact fun p _ => p.toValue_unit

theorem isWritable_document (path : String) (ps : List Printed) :
    Json.isWritable (Report.document path (ps.map Printed.toValue)) = ps.all fun p => decide p.unit.Fits := by
  have hunits : Json.areWritable (ps.map Printed.toValue) = ps.all fun p => decide p.unit.Fits := by
    induction ps with
    | nil => rfl
    | cons p rest ih => rw [List.map_cons, Json.areWritable, Printed.isWritable_toValue, ih, List.all_cons]
  simp [Report.document, Json.isWritable, Json.entriesWritable, hunits]

theorem toJson_units (path : String) (ps : List Printed) :
    Report.toJson path (ps.map Printed.unit) =
      if canPrint .json ps then .ok (render .json path ps) else .error (.fault .unwritable) := by
  have hvalue : Report.toValue path (ps.map Printed.unit) = .ok (Report.document path (ps.map Printed.toValue)) := by
    rw [Report.toValue, mapM_toValue]
    rfl
  rw [Report.toJson, hvalue, Outcome.ok_bind, Json.write?, isWritable_document, canPrint]
  split <;> rfl

theorem writeReport_units (format : OutputFormat) (path : String) (ps : List Printed) :
    writeReport format path (ps.map Printed.unit) =
      if canPrint format ps then .ok (render format path ps) else .error (.fault .unwritable) := by
  cases format with
  | text =>
    change Except.map _ ((ps.map Printed.unit).mapM (Report.line path)) = _
    rw [mapM_line, canPrint]
    split
    · simp [render, List.map_map, Function.comp_def]
    · rfl
  | json => exact toJson_units path ps

end CommandLine

end FunctionMetrics
