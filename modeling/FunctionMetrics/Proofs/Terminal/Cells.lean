import FunctionMetrics.Terminal.Cells

/-!
# Cells of a text

A text measures what its parts do, as long as it is not cut behind a joiner or before a sign for pictures.
-/

namespace FunctionMetrics.Terminal

open Text

variable {cs w : List Char}

/-! ## One character -/

theorem cellWidth_joiner : cellWidth joiner = 0 := by decide +kernel

theorem cellWidth_pictureSign : cellWidth pictureSign = 0 := by decide +kernel

theorem ne_joiner {c : Char} (h : cellWidth c ≠ 0) : c ≠ joiner := by
  rintro rfl
  exact h cellWidth_joiner

theorem ne_pictureSign {c : Char} (h : cellWidth c ≠ 0) : c ≠ pictureSign := by
  rintro rfl
  exact h cellWidth_pictureSign

@[simp] theorem cellsAfter_nil (last : Option Char) : cellsAfter last [] = 0 := rfl

theorem cellsAfter_joiner_end (last : Option Char) : cellsAfter last [joiner] = 0 := by
  rw [cellsAfter.eq_def]; simp

theorem cellsAfter_joiner (last : Option Char) (hidden : Char) (rest : List Char) :
    cellsAfter last (joiner :: hidden :: rest) = cellsAfter last rest := by
  rw [cellsAfter.eq_def]; simp

theorem cellsAfter_cons {c : Char} (hc : c ≠ joiner) (last : Option Char) (rest : List Char) :
    cellsAfter last (c :: rest) =
      if c = pictureSign then (if last.any isWidened then 1 else 0) + cellsAfter none rest
      else if cellWidth c = 0 then cellsAfter last rest
      else cellWidth c + cellsAfter (some c) rest := by
  rw [cellsAfter.eq_def]; simp only [if_neg hc]

theorem cellsAfter_cons_of_width {c : Char} (hc : cellWidth c ≠ 0) (last : Option Char) (rest : List Char) :
    cellsAfter last (c :: rest) = cellWidth c + cellsAfter (some c) rest := by
  rw [cellsAfter_cons (ne_joiner hc), if_neg (ne_pictureSign hc), if_neg hc]

theorem cellsAfter_of_narrow (last : Option Char) (h : ∀ c ∈ cs, cellWidth c = 1) : cellsAfter last cs = cs.length := by
  induction cs generalizing last with
  | nil => rfl
  | cons c rest ih =>
    have hc := h c (by simp)
    rw [cellsAfter_cons_of_width (by omega), ih _ fun d hd => h d (by simp [hd]), hc, List.length_cons, Nat.add_comm]

/-! ## What a text begins behind -/

theorem cellsAfter_none_le (last : Option Char) (cs : List Char) : cellsAfter none cs ≤ cellsAfter last cs := by
  induction last, cs using cellsAfter.induct with
  | case1 last => simp
  | case2 last => simp [cellsAfter_joiner_end]
  | case3 last hidden rest ih => simpa [cellsAfter_joiner] using ih
  | case4 last rest hne ih => simp [cellsAfter_cons hne]
  | case5 last c rest hc hsign hzero ih => simpa [cellsAfter_cons hc, hsign, hzero] using ih
  | case6 last c rest hc hsign hzero ih => simp [cellsAfter_cons hc, hsign, hzero]

/-- What a text begins behind counts only for a sign for pictures. -/
theorem cellsAfter_congr {last last' : Option Char} (h : last.any isWidened = last'.any isWidened) (cs : List Char) :
    cellsAfter last cs = cellsAfter last' cs := by
  induction last, cs using cellsAfter.induct with
  | case1 last => rfl
  | case2 last => simp [cellsAfter_joiner_end]
  | case3 last hidden rest ih => simpa [cellsAfter_joiner] using ih h
  | case4 last rest hne ih => simp [cellsAfter_cons hne, h]
  | case5 last c rest hc hsign hzero ih => simpa [cellsAfter_cons hc, hsign, hzero] using ih h
  | case6 last c rest hc hsign hzero ih => simp [cellsAfter_cons hc, hsign, hzero]

/-! ## Parts of a text -/

/-- Whether a text ends in a joiner that hides nothing yet. -/
def endsOpen : List Char → Bool
  | [] => false
  | c :: rest =>
    if c = joiner then
      match rest with
      | [] => true
      | _ :: rest => endsOpen rest
    else endsOpen rest

theorem endsOpen_joiner (hidden : Char) (rest : List Char) : endsOpen (joiner :: hidden :: rest) = endsOpen rest := by
  rw [endsOpen.eq_def]; simp

theorem endsOpen_cons {c : Char} (hc : c ≠ joiner) (rest : List Char) : endsOpen (c :: rest) = endsOpen rest := by
  rw [endsOpen.eq_def]; simp only [if_neg hc]

theorem endsOpen_eq_false (h : cs.getLast? ≠ some joiner) : endsOpen cs = false := by
  induction cs using endsOpen.induct with
  | case1 => rfl
  | case2 => simp at h
  | case3 hidden rest ih =>
    rw [endsOpen_joiner]
    cases rest with
    | nil => rfl
    | cons d rest => exact ih (by simpa using h)
  | case4 c rest hc ih =>
    rw [endsOpen_cons hc]
    cases rest with
    | nil => rfl
    | cons d rest => exact ih (by simpa using h)

theorem exists_cellsAfter_append (last : Option Char) (cs : List Char) :
    ∃ last', ∀ rest, cellsAfter last (cs ++ rest) =
      cellsAfter last cs + cellsAfter last' (if endsOpen cs then rest.tail else rest) := by
  induction last, cs using cellsAfter.induct with
  | case1 last => exact ⟨last, by simp [endsOpen]⟩
  | case2 last =>
    refine ⟨last, fun rest => ?_⟩
    cases rest with
    | nil => simp [cellsAfter_joiner_end]
    | cons hidden rest => simp [cellsAfter_joiner, cellsAfter_joiner_end, endsOpen]
  | case3 last hidden rest ih => simpa [cellsAfter_joiner, endsOpen_joiner] using ih
  | case4 last rest hne ih =>
    obtain ⟨last', ih⟩ := ih
    exact ⟨last', fun behind => by simp [cellsAfter_cons hne, endsOpen_cons hne, ih, Nat.add_assoc]⟩
  | case5 last c rest hc hsign hzero ih => simpa [cellsAfter_cons hc, endsOpen_cons hc, hsign, hzero] using ih
  | case6 last c rest hc hsign hzero ih =>
    obtain ⟨last', ih⟩ := ih
    exact ⟨last', fun behind => by simp [cellsAfter_cons hc, endsOpen_cons hc, hsign, hzero, ih, Nat.add_assoc]⟩

theorem cells_le_append (cs rest : List Char) : cells cs ≤ cells (cs ++ rest) := by
  obtain ⟨last', h⟩ := exists_cellsAfter_append none cs
  rw [cells, cells, h]
  exact Nat.le_add_right _ _

theorem cells_le_of_isPrefix (h : w <+: cs) : cells w ≤ cells cs := by
  obtain ⟨rest, rfl⟩ := h
  exact cells_le_append w rest

theorem add_cells_le (h : endsOpen w = false) (rest : List Char) : cells w + cells rest ≤ cells (w ++ rest) := by
  obtain ⟨last', happend⟩ := exists_cellsAfter_append none w
  have hrest := cellsAfter_none_le last' rest
  rw [cells, cells, cells, happend, h]
  simpa using hrest

theorem cellWidth_blank : cellWidth ' ' = 1 := by decide +kernel

theorem isWidened_blank : isWidened ' ' = false := by decide +kernel

/-- No sign for pictures widens a blank, so a text may be cut behind one. -/
theorem cells_append_blank (h : endsOpen cs = false) (rest : List Char) :
    cells (cs ++ ' ' :: rest) = cells cs + 1 + cells rest := by
  obtain ⟨last', happend⟩ := exists_cellsAfter_append none cs
  have hrest : cellsAfter (some ' ') rest = cells rest := cellsAfter_congr (by simp [isWidened_blank]) rest
  rw [cells, happend, h, if_neg Bool.false_ne_true, cellsAfter_cons_of_width (by simp [cellWidth_blank]), hrest,
    cellWidth_blank, ← Nat.add_assoc, cells, cells]

end FunctionMetrics.Terminal
