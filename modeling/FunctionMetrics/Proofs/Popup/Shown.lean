import FunctionMetrics.Popup.Sheet
import FunctionMetrics.Proofs.Outcome

/-!
# What is shown of a unit

A unit that has a message has a sheet, whatever the console is. The console prints it or stops with an error of its
own.
-/

namespace FunctionMetrics.Popup

variable {m : Measurement} {ls : List String}

theorem lines_eq_ok :
    lines m = .ok ls ↔ ∃ message, m.message = .ok message ∧
      ls = [center m.name (max m.name.length (metricLine message).length : Nat), "", metricLine message] := by
  rw [lines, Outcome.map_eq_ok]
  simp only [eq_comm]

theorem length_lines (h : lines m = .ok ls) : ls.length = 3 := by
  obtain ⟨_, -, rfl⟩ := lines_eq_ok.mp h
  rfl

theorem lines_ne_nil (h : lines m = .ok ls) : ls ≠ [] := List.ne_nil_of_length_eq_add_one (length_lines h)

theorem sheet_of_lines (h : lines m = .ok ls) (b : Border) :
    sheet b m = .ok (sheetOf b m.severity ("\n".intercalate ls)) := by
  rw [sheet, h]; rfl

theorem exists_sheet {message : String} (h : m.message = .ok message) (b : Border) : ∃ s, sheet b m = .ok s :=
  ⟨_, sheet_of_lines (lines_eq_ok.mpr ⟨message, h, rfl⟩) b⟩

theorem shown_of_sheet {b : Border} {s : Sheet} (h : sheet b m = .ok s) (console : Console) :
    shown console b m = ofLibrary (console s) := by
  rw [shown, h]; rfl

theorem exists_box_of_ne_none {b : Border} (h : b ≠ .none) : ∃ box, box? b = some box := by
  cases b with
  | none => exact absurd rfl h
  | single | double | rounded | solid | shadow => exact ⟨_, rfl⟩

end FunctionMetrics.Popup
