import FunctionMetrics.Proofs.Popup.Layout
import FunctionMetrics.Proofs.Terminal.Fitting
import FunctionMetrics.Terminal.Console

/-!
# The layout of a terminal

A terminal without color is a console that lays texts and panels out as `Layout.Describes` has it.
-/

namespace FunctionMetrics.Terminal

open Text
open Popup (Box Outline OneLine isNarrow kept linesOf printed spaces)

variable {ls : List String}

def layout (t : Terminal) : Popup.Layout where
  width := t.width
  cells line := cells line.toList
  rows width body := ((wrap width (dropSignals body.toList)).map (·.map String.ofList)).mapError Uncut.error
  frame := frame

/-! ## Texts without control characters -/

theorem toList_of_lines (body : String) : body.toList = ['\n'].intercalate ((linesOf body).map String.toList) := by
  conv_lhs => rw [← Popup.intercalate_linesOf body, String.toList_intercalate]
  rfl

theorem forall_mem_intercalate {p : Char → Prop} {d : Char} (hd : p d) {lines : List (List Char)}
    (h : ∀ l ∈ lines, ∀ c ∈ l, p c) : ∀ c ∈ [d].intercalate lines, p c := by
  induction lines with
  | nil => simp
  | cons l rest ih =>
    cases rest with
    | nil => simpa using h
    | cons l' rest =>
      have hrest := ih fun k hk => h k (by simp [hk])
      rw [List.intercalate_cons_cons]
      simp only [List.forall_mem_append, List.forall_mem_singleton]
      exact ⟨⟨h l (by simp), hd⟩, hrest⟩

theorem dropSignals_of_lines {body : String} (h : ∀ line ∈ linesOf body, OneLine line) :
    dropSignals body.toList = body.toList := by
  rw [dropSignals, List.filter_eq_self, toList_of_lines]
  apply forall_mem_intercalate
  · decide
  · rw [List.forall_mem_map]
    intro line hline c hc
    have hplain := Popup.isControlOrBreak_eq_false_iff.mp (h line hline c hc)
    simp only [Bool.not_eq_true', decide_eq_false_iff_not]
    omega

theorem widest_of_lines {body : String} (h : ∀ line ∈ linesOf body, OneLine line) (t : Terminal) :
    widest body.toList = t.layout.room (linesOf body) := by
  have hend : ∀ l ∈ (linesOf body).map String.toList, ∀ c ∈ l, isLineEnd c = false := by
    rw [List.forall_mem_map]
    intro line hline c hc
    have hplain := Popup.isControlOrBreak_eq_false_iff.mp (h line hline c hc)
    simp only [isLineEnd, Bool.or_eq_false_iff, Bool.and_eq_false_iff, decide_eq_false_iff_not]
    omega
  rw [toList_of_lines, widest_intercalate (by simpa using Popup.linesOf_ne_nil body) hend, List.map_map]
  rfl

theorem kept_eq_trimExcess (width : Nat) (line : String) :
    kept width line = String.ofList (trimExcess width line.toList) := by
  rw [trimExcess, String.length_toList]; rfl

theorem wrap_of_lines {width : Nat} {body : String}
    (h : ∀ line ∈ linesOf body, OneLine line ∧ cells line.toList ≤ width) :
    wrap width body.toList = .ok ((linesOf body).map fun line => (kept width line).toList) := by
  have hplain : ∀ l ∈ (linesOf body).map String.toList, '\n' ∉ l ∧ '\t' ∉ l := by
    rw [List.forall_mem_map]
    exact fun line hline => ⟨(h line hline).1.not_mem rfl, (h line hline).1.not_mem rfl⟩
  have hfits : ∀ l ∈ (linesOf body).map String.toList, cells l ≤ width := by
    rw [List.forall_mem_map]
    exact fun line hline => (h line hline).2
  rw [toList_of_lines, wrap_of_fits (by simpa using Popup.linesOf_ne_nil body) hplain hfits, List.map_map]
  simp only [Function.comp_def, kept_eq_trimExcess, String.toList_ofList]

theorem layout_rows {t : Terminal} {width : Nat} {body : String}
    (h : ∀ line ∈ linesOf body, OneLine line ∧ cells line.toList ≤ width) :
    t.layout.rows width body = .ok ((linesOf body).map (kept width)) := by
  change Except.mapError _ (Except.map _ (wrap width (dropSignals body.toList))) = _
  rw [dropSignals_of_lines fun line hline => (h line hline).1, wrap_of_lines h]
  change Except.ok (((linesOf body).map fun line => (kept width line).toList).map String.ofList) = _
  rw [List.map_map]
  simp [Function.comp_def]

/-! ## Panels -/

theorem edge_of_fits {t : Terminal} {room : Nat} (h : room + 4 ≤ t.width) (left across right : Char) :
    t.edge left across right (room + 2) = Popup.Layout.rule left across right room := by
  rw [edge, List.take_of_length_le (by simp; omega), Popup.Layout.rule]

theorem padded_of_fits {room : Nat} {line : String} (h : cells line.toList ≤ room) :
    padded room line.toList = .ok (" " ++ line ++ spaces (room - cells line.toList) ++ " ") := by
  unfold padded
  rw [if_pos h, padTo, spaces, String.ofList_append, String.ofList_toList]
  simp only [String.append_assoc]
  rfl

theorem mapM_padded {room : Nat} (h : ∀ line ∈ ls, cells line.toList ≤ room) :
    (ls.map String.toList).mapM (padded room) =
      .ok (ls.map fun line => " " ++ line ++ spaces (room - cells line.toList) ++ " ") := by
  induction ls with
  | nil => rfl
  | cons line rest ih =>
    rw [List.map_cons, List.mapM_cons, padded_of_fits (h line (by simp)), ih fun l hl => h l (by simp [hl])]
    rfl

theorem cells_kept_le (room : Nat) (line : String) : cells (kept room line).toList ≤ cells line.toList := by
  rw [kept_eq_trimExcess, String.toList_ofList]
  exact cells_le_of_isPrefix (trimExcess_isPrefix room line.toList)

/-- The rows of a text that fits, filled up with blanks. -/
theorem wrap_padded {room : Nat} {body : String}
    (h : ∀ line ∈ linesOf body, OneLine line ∧ cells line.toList ≤ room) :
    wrap room body.toList >>= List.mapM (padded room) =
      .ok (((linesOf body).map (kept room)).map fun line =>
        " " ++ line ++ spaces (room - cells line.toList) ++ " ") := by
  have hkept : ∀ line ∈ (linesOf body).map (kept room), cells line.toList ≤ room := by
    rw [List.forall_mem_map]
    exact fun line hline => Nat.le_trans (cells_kept_le room line) (h line hline).2
  have hrows := mapM_padded hkept
  rw [List.map_map] at hrows
  rw [wrap_of_lines h]
  exact hrows

theorem paint_plain {t : Terminal} (hcolor : t.color = false) (style piece : String) : t.paint style piece = piece := by
  unfold paint
  split <;> simp [hcolor]

theorem around_eq (t : Terminal) (f : Outline) (room : Nat) (rows : List String) :
    t.layout.around f room rows =
      Popup.Layout.top f room :: (rows.map fun line => " " ++ line ++ spaces (room - cells line.toList) ++ " ").map
        (f.side.toString ++ · ++ f.side.toString) ++ [Popup.Layout.bottom f room] := by
  rw [Popup.Layout.around, List.map_map]
  congr 3
  funext line
  simp only [Popup.Layout.row, layout, Function.comp_apply, String.append_assoc]

theorem panel_of_fits {t : Terminal} (hcolor : t.color = false) {body : String}
    (h : ∀ line ∈ linesOf body, OneLine line) (hroom : 0 < t.layout.room (linesOf body))
    (hfits : t.layout.room (linesOf body) + 4 ≤ t.width) (f : Outline) (style : String) :
    t.panel f style body.toList =
      .ok (t.layout.around f (t.layout.room (linesOf body))
        ((linesOf body).map (kept (t.layout.room (linesOf body))))) := by
  have hwidth : t.frameWidth body.toList = t.layout.room (linesOf body) + 2 := by
    rw [frameWidth, widest_of_lines h t]
    omega
  have hcells : ∀ line ∈ linesOf body, OneLine line ∧ cells line.toList ≤ t.layout.room (linesOf body) :=
    fun line hline => ⟨h line hline, Popup.Layout.cells_le_room (l := t.layout) hline⟩
  generalize t.layout.room (linesOf body) = room at *
  unfold panel
  rw [hwidth, around_eq]
  dsimp only
  rw [Nat.add_sub_cancel, if_neg (by omega), edge_of_fits hfits, edge_of_fits hfits]
  simp only [paint_plain hcolor]
  rw [← bind_assoc, wrap_padded hcells]
  rfl

/-! ## Characters -/

theorem inRanges_eq_false {ranges : List (Nat × Nat)} {low high n : Nat}
    (h : ∀ r ∈ ranges, r.2 < low ∨ high ≤ r.1) (hlow : low ≤ n) (hhigh : n < high) : inRanges ranges n = false := by
  simp only [inRanges, List.any_eq_false, Bool.and_eq_true, decide_eq_true_eq]
  intro r hr
  have hapart := h r hr
  omega

theorem cellWidth_of_isNarrow {c : Char} (h : isNarrow c = true) : cellWidth c = 1 := by
  simp only [isNarrow, Bool.or_eq_true, Bool.and_eq_true, decide_eq_true_eq] at h
  rcases h with h | ⟨hlow, hhigh⟩
  · exact if_pos h
  · -- No table of widths has a character that boxes are drawn with.
    have hzero : inRanges zeroWidthRanges c.toNat = false := inRanges_eq_false (by decide +kernel) hlow hhigh
    have hwide : inRanges wideRanges c.toNat = false := inRanges_eq_false (by decide +kernel) hlow hhigh
    have hcontrol : isControl c.toNat = false := by
      simp only [isControl, Bool.or_eq_false_iff, Bool.and_eq_false_iff, decide_eq_false_iff_not]
      omega
    unfold cellWidth
    dsimp only
    rw [if_neg (by omega), hcontrol, hzero, hwide]
    rfl

/-! ## Consoles -/

theorem describes {t : Terminal} (hcolor : t.color = false) : t.layout.Describes t.console where
  text body h hwidth := by
    change 0 < t.width at hwidth
    unfold console rows
    dsimp only
    rw [if_neg (by omega)]
    change _ = Except.map printed (Except.mapError _ (Except.map _ (wrap t.width (dropSignals body.toList))))
    cases wrap t.width (dropSignals body.toList) <;> rfl
  panel body box style h hroom hfits := by
    change _ + 4 ≤ t.width at hfits
    unfold console rows
    dsimp only
    rw [if_neg (by omega), dropSignals_of_lines h, panel_of_fits hcolor h hroom hfits,
      layout_rows fun line hline => ⟨h line hline, Popup.Layout.cells_le_room (l := t.layout) hline⟩]
    rfl
  rows width body h := layout_rows h
  narrow s h := by
    change cells s.toList = _
    rw [cells, cellsAfter_of_narrow none fun c hc => cellWidth_of_isNarrow (h c hc), String.length_toList]
  begins s t := by
    change cells s.toList ≤ cells (s ++ t).toList
    rw [String.toList_append]
    exact cells_le_append _ _
  blank s t h := by
    change cells (s ++ " " ++ t).toList = cells s.toList + 1 + cells t.toList
    rw [String.toList_append, String.toList_append, List.append_assoc]
    exact cells_append_blank (endsOpen_eq_false h) _
  frame box := by
    have hbox : (Terminal.frame box).chars.all isNarrow = true := by
      clear hcolor t
      cases box <;> decide
    exact List.all_eq_true.mp hbox

end FunctionMetrics.Terminal
