import FunctionMetrics.Proofs.Number.Typed
import FunctionMetrics.Proofs.Popup.Shown
import FunctionMetrics.Proofs.Report.Lines
import FunctionMetrics.Proofs.Terminal.Layout

/-!
# Popups in any border

Where the lines of a popup fit, a border is put around them and changes nothing in them, unless the name of the unit
has more characters than cells.
-/

namespace FunctionMetrics.Popup

open Text Json
open Report (functionNamed unbranched)

/-! ## The lines of a popup -/

theorem mem_center {name : String} {width : Int} {c : Char} (h : c ∈ (center name width).toList) :
    c = ' ' ∨ c ∈ name.toList := by
  unfold center spaces at h
  split at h
  · exact .inr h
  · simp only [String.toList_append, String.toList_ofList, List.mem_append, List.mem_replicate] at h
    exact h.imp And.right id

theorem oneLine_center {name : String} (h : OneLine name) (width : Int) : OneLine (center name width) := by
  intro c hc
  rcases mem_center hc with rfl | hc
  · decide
  · exact h c hc

theorem isNarrow_of_isNumeral {c : Char} (h : isNumeral c = true) : isNarrow c = true := by
  have hrange := Typed.toNat_of_isNumeral h
  simp only [isNarrow, Bool.or_eq_true, Bool.and_eq_true, decide_eq_true_eq]
  omega

theorem oneLine_of_isNumeral {s : String} (h : ∀ c ∈ s.toList, isNumeral c = true) : OneLine s := by
  intro c hc
  have hrange := Typed.toNat_of_isNumeral (h c hc)
  exact isControlOrBreak_eq_false_iff.mpr (by omega)

theorem isNumeral_of_scoreText {score : Number} {text : String} (h : scoreText score = .ok text) :
    ∀ c ∈ text.toList, isNumeral c = true := by
  cases score with
  | int n =>
    by_cases hn : n.natAbs < 10 ^ Number.maxDigits
    · rw [scoreText_int hn] at h
      obtain rfl := Except.ok.inj h
      exact isNumeral_intText n
    · rw [scoreText_long hn] at h
      cases h
  | float x =>
    cases x with
    | nan | infinity => cases h
    | finite negative m => exact isNumeral_scoreText rfl h

variable {layout : Layout} {console : Console} {m : Measurement} {ls : List String}

theorem oneLine_lines (h : lines m = .ok ls) (hname : OneLine m.name) (hlabel : OneLine m.label) :
    ∀ l ∈ ls, OneLine l := by
  obtain ⟨message, hmessage, rfl⟩ := lines_eq_ok.mp h
  obtain ⟨score, hscore, rfl⟩ := Outcome.map_eq_ok.mp hmessage
  have hparts : OneLine " 1. " ∧ OneLine ": " ∧ OneLine " " ∧ OneLine "" := by decide
  simp only [List.forall_mem_cons, metricLine, oneLine_append]
  exact ⟨oneLine_center hname _, hparts.2.2.2,
    ⟨⟨hparts.1, ⟨hlabel, hparts.2.1⟩, oneLine_of_isNumeral (isNumeral_of_scoreText hscore)⟩, hparts.2.2.1⟩, by simp⟩

theorem room_pos (hlayout : layout.Describes console) (h : lines m = .ok ls) : 0 < layout.room ls := by
  obtain ⟨message, -, rfl⟩ := lines_eq_ok.mp h
  have hindex : layout.cells " 1. " = 4 := hlayout.narrow " 1. " (List.all_eq_true.mp (by decide))
  have hbegin : layout.cells " 1. " ≤ layout.cells (metricLine message) := by
    rw [metricLine, String.append_assoc]
    exact hlayout.begins _ _
  exact Nat.lt_of_lt_of_le (by omega) (Nat.le_trans hbegin (Layout.cells_le_room (by simp)))

theorem length_center_le (text : String) (width : Nat) :
    (center text (max text.length width : Nat)).length ≤ max text.length width := by
  unfold center spaces
  split
  · exact Nat.le_max_left ..
  · simp only [String.length_append, String.length_ofList, List.length_replicate]
    omega

theorem whole_center_iff {text : String} {n width : Nat} (h : n ≤ width) :
    Whole width (center text (max text.length n : Nat)) ↔ Whole width text := by
  by_cases hn : n ≤ text.length
  · rw [center, if_pos (by omega)]
  · -- The blanks in front never make the text longer than the line that it is centered over.
    have hlength := length_center_le text n
    exact iff_of_true (.inl (by omega)) (.inl (by omega))

theorem cells_metricLine (hlayout : layout.Describes console) {message : String}
    (hlabel : m.label = Metric.cyclomatic.label) (h : m.message = .ok message) :
    layout.cells (metricLine message) = (metricLine message).length := by
  obtain ⟨score, hscore, rfl⟩ := Outcome.map_eq_ok.mp h
  have hparts : ∀ part ∈ [" 1. ", Metric.cyclomatic.label, ": ", " "], part.toList.all isNarrow = true := by decide
  apply hlayout.narrow
  simp only [List.forall_mem_cons, List.all_eq_true] at hparts
  simp only [metricLine, hlabel, String.toList_append, List.forall_mem_append]
  exact ⟨⟨hparts.1, ⟨hparts.2.1, hparts.2.2.1⟩, fun c hc =>
    isNarrow_of_isNumeral (isNumeral_of_scoreText hscore c hc)⟩, hparts.2.2.2.1⟩

theorem map_kept_eq_self_iff (hlayout : layout.Describes console) (hlabel : m.label = Metric.cyclomatic.label)
    (h : lines m = .ok ls) {width : Nat} (hwidth : layout.room ls ≤ width) :
    ls.map (kept width) = ls ↔ Whole width m.name := by
  obtain ⟨message, hmessage, rfl⟩ := lines_eq_ok.mp h
  have hmetric : (metricLine message).length ≤ width := by
    rw [← cells_metricLine hlayout hlabel hmessage]
    exact Nat.le_trans (Layout.cells_le_room (by simp)) hwidth
  simp only [List.map_cons, List.map_nil, List.cons.injEq, and_true, kept_eq_self_iff, whole_center_iff hmetric]
  exact and_iff_left ⟨.inl (Nat.zero_le width), .inl hmetric⟩

/-! ## Popups -/

theorem shown_plain (hlayout : layout.Describes console) (h : lines m = .ok ls) (hline : ∀ l ∈ ls, OneLine l)
    (hfits : layout.room ls + 4 ≤ layout.width) :
    shown console .none m = .ok (printed (ls.map (kept layout.width))) := by
  rw [shown_of_sheet (sheet_of_lines h .none)]
  change ofLibrary (console (.text ("\n".intercalate ls))) = _
  rw [hlayout.console_text (lines_ne_nil h) hline (by omega) (by omega)]
  rfl

theorem shown_framed (hlayout : layout.Describes console) (h : lines m = .ok ls) (hline : ∀ l ∈ ls, OneLine l)
    (hfits : layout.room ls + 4 ≤ layout.width) {b : Border} {box : Box} (hbox : box? b = some box) :
    shown console b m =
      .ok (printed (layout.around (layout.frame box) (layout.room ls) (ls.map (kept (layout.room ls))))) := by
  rw [shown_of_sheet (sheet_of_lines h b), sheetOf, hbox]
  dsimp only
  rw [hlayout.console_panel (lines_ne_nil h) hline (room_pos hlayout h) hfits]
  rfl

/-- **A border is cosmetic.** On any console that is laid out as described, the lines of a popup are printed as they
are without a border, and with one they stand in a frame that is as wide in every row; no name is read as anything but
itself. Two kinds of name break this. One that has more characters than there are cells loses the blanks at its end
that are beyond, and how many cells there are is up to the border. One that ends in a joiner takes a cell away from its
row. -/
theorem border_is_cosmetic (hlayout : layout.Describes console) {root : Option Node} {th : Thresholds} {metric : Metric}
    {r : Report} (h : Report.ofTree root th metric = .ok r) (hm : m ∈ r) (hlabel : OneLine metric.label)
    (hname : OneLine m.name) :
    (metric = .cyclomatic → ∃ ls, lines m = .ok ls ∧
      ∀ width, layout.room ls ≤ width → (ls.map (kept width) = ls ↔ Whole width m.name)) ∧
    ∀ ls, lines m = .ok ls → ls.length = 3 ∧
      (∀ width, ∀ l ∈ ls, (kept width l = l ↔ Whole width l) ∧
        ∃ blanks, l = kept width l ++ blanks ∧ ∀ c ∈ blanks.toList, isBlank c = true) ∧
      ((∀ l ∈ ls, layout.cells l + 4 ≤ layout.width) →
        shown console .none m = .ok (printed (ls.map (kept layout.width))) ∧
        ∀ b, b ≠ .none → ∃ box, box? b = some box ∧
          shown console b m =
            .ok (printed (layout.around (layout.frame box) (layout.room ls) (ls.map (kept (layout.room ls))))) ∧
          layout.cells (Layout.top (layout.frame box) (layout.room ls)) = layout.room ls + 4 ∧
          layout.cells (Layout.bottom (layout.frame box) (layout.room ls)) = layout.room ls + 4 ∧
          ∀ l ∈ ls.map (kept (layout.room ls)), ¬ EndsInJoiner l →
            layout.cells (layout.row (layout.frame box) (layout.room ls) l) = layout.room ls + 4) := by
  -- The label of a measurement is that of its metric, whatever the unit.
  obtain ⟨unit, hunit⟩ := Report.exists_unit_of_mem h hm
  have hmlabel : m.label = metric.label := (Measurement.of_eq_ok_iff_describes.mp hunit).label
  refine ⟨?complexity, fun ls hls => ⟨length_lines hls, fun width l _ => ⟨kept_eq_self_iff, exists_kept_append width l⟩,
    fun hwidth => ?shown⟩⟩
  case complexity =>
    rintro rfl
    obtain ⟨message, hmessage⟩ := Report.message_of_mem h hm
    exact ⟨_, lines_eq_ok.mpr ⟨message, hmessage, rfl⟩, fun width hwidth =>
      map_kept_eq_self_iff hlayout hmlabel (lines_eq_ok.mpr ⟨message, hmessage, rfl⟩) hwidth⟩
  case shown =>
    have hline := oneLine_lines hls hname (by rwa [hmlabel])
    have hfits := Layout.room_add_le (lines_ne_nil hls) hwidth
    refine ⟨shown_plain hlayout hls hline hfits, fun b hb => ?_⟩
    obtain ⟨box, hbox⟩ := exists_box_of_ne_none hb
    refine ⟨box, hbox, shown_framed hlayout hls hline hfits hbox, hlayout.cells_top box _, hlayout.cells_bottom box _,
      List.forall_mem_map.mpr fun l hl hjoiner => ?_⟩
    exact hlayout.cells_row box (Nat.le_trans (hlayout.cells_kept_le _ l) (Layout.cells_le_room hl)) hjoiner

theorem lines_unbranched (name : String) :
    lines (unbranched name) = .ok [center name (max name.length 18 : Nat), "", " 1. Complexity: 1 "] := by
  have hscore : scoreText (.float .one) = .ok "1" := eq_ok_of_toOption (by decide)
  have hmetric : metricLine ("Complexity" ++ ": " ++ "1") = " 1. Complexity: 1 " := by decide
  have hlength : " 1. Complexity: 1 ".length = 18 := by decide
  rw [← hlength, ← hmetric]
  exact lines_eq_ok.mpr ⟨_, congrArg (Except.map _) hscore, rfl⟩

theorem border_is_cosmetic_marked :
    Report.ofTree (some (functionNamed "[b]漢")) {} .cyclomatic = .ok [unbranched "[b]漢"] ∧
    ∃ ls, lines (unbranched "[b]漢") = .ok ls ∧
      shown (Terminal.console { width := 22 }) .none (unbranched "[b]漢") = .ok (printed ls) ∧
      shown (Terminal.console { width := 22 }) .rounded (unbranched "[b]漢") =
        .ok (printed ((Terminal.layout { width := 22 }).around (Terminal.frame .rounded) 18 ls)) := by
  have hreport := Report.ofTree_functionNamed "[b]漢"
  have hlines : lines (unbranched "[b]漢") = .ok ["       [b]漢", "", " 1. Complexity: 1 "] := by
    have hcenter : center "[b]漢" (max "[b]漢".length 18 : Nat) = "       [b]漢" := by decide
    rw [lines_unbranched, hcenter]
  have hroom : (Terminal.layout { width := 22 }).room ["       [b]漢", "", " 1. Complexity: 1 "] = 18 := by
    decide +kernel
  obtain ⟨hcomplexity, hpopup⟩ := border_is_cosmetic (Terminal.describes (t := { width := 22 }) rfl) hreport
    (List.mem_singleton_self _) (by decide) (by decide)
  obtain ⟨ls, hls, hkept⟩ := hcomplexity rfl
  obtain rfl := Except.ok.inj (hlines.symm.trans hls)
  obtain ⟨-, -, hshown⟩ := hpopup _ hlines
  obtain ⟨hplain, hframed⟩ := hshown (by decide +kernel)
  obtain ⟨box, hbox, hrounded, -⟩ := hframed .rounded (by decide)
  obtain rfl : Box.rounded = box := Option.some.inj hbox
  have hwidth : (Terminal.layout { width := 22 }).width = 22 := rfl
  rw [hwidth, (hkept 22 (by rw [hroom]; decide)).mpr (.inl (by decide))] at hplain
  rw [(hkept _ (Nat.le_refl _)).mpr (.inl (by rw [hroom]; decide)), hroom] at hrounded
  exact ⟨hreport, _, hlines, hplain, hrounded⟩

/-- A letter with more marks upon it than there are cells, and a blank. -/
def markedName : String := "x" ++ String.ofList (List.replicate 22 '\u0301') ++ " "

/-- The blank at the end of the name is lost on every console of this width, though every line fits. There is such a
console. -/
theorem trailing_blank_lost :
    Report.ofTree (some (functionNamed markedName)) {} .cyclomatic = .ok [unbranched markedName] ∧
    OneLine markedName ∧ ∃ ls, lines (unbranched markedName) = .ok ls ∧
      (∀ (layout : Layout) (console : Console), layout.Describes console → layout.width = 22 →
        (∀ l ∈ ls, layout.cells l + 4 ≤ 22) → shown console .none (unbranched markedName) ≠ .ok (printed ls)) ∧
      (Terminal.layout { width := 22 }).Describes (Terminal.console { width := 22 }) ∧
      ∀ l ∈ ls, (Terminal.layout { width := 22 }).cells l + 4 ≤ 22 := by
  have hlength : markedName.length = 24 := by decide
  have hcenter : center markedName (max markedName.length 18 : Nat) = markedName := by
    rw [hlength, center, hlength]; rfl
  have hlines := lines_unbranched markedName
  rw [hcenter] at hlines
  have hname : OneLine markedName := by decide
  have hline := oneLine_lines hlines hname (by decide)
  have hcut : printed ([markedName, "", " 1. Complexity: 1 "].map (kept 22)) ≠
      printed [markedName, "", " 1. Complexity: 1 "] := by decide +kernel
  refine ⟨Report.ofTree_functionNamed markedName, hname, _, hlines, ?_, Terminal.describes rfl, by decide +kernel⟩
  intro layout console hlayout hwidth hfits hshown
  rw [shown_plain hlayout hlines hline (by rw [hwidth]; exact Layout.room_add_le (by simp) hfits), hwidth] at hshown
  exact hcut (Except.ok.inj hshown)

end FunctionMetrics.Popup
