import FunctionMetrics.Popup.Sheet
import FunctionMetrics.Text.Blank
import Mathlib.Data.List.TakeDrop
import Mathlib.Data.List.TakeWhile

/-!
# Layouts

A console is not part of the program. `Layout.Describes` says what is known of one that prints texts and panels: it
makes rows of a text, and a panel is a frame around the rows of its text. What lines that fit look like follows from
that.
-/

namespace FunctionMetrics.Popup

open Text

variable {ls : List String}

/-! ## One line -/

def isControlOrBreak (c : Char) : Bool :=
  c.toNat < 0x20 || (0x7F ≤ c.toNat && c.toNat < 0xA0) || c.toNat = 0x2028 || c.toNat = 0x2029

theorem isControlOrBreak_eq_false_iff {c : Char} : isControlOrBreak c = false ↔
    0x20 ≤ c.toNat ∧ (c.toNat < 0x7F ∨ 0xA0 ≤ c.toNat) ∧ c.toNat ≠ 0x2028 ∧ c.toNat ≠ 0x2029 := by
  simp only [isControlOrBreak, Bool.or_eq_false_iff, Bool.and_eq_false_iff, decide_eq_false_iff_not]
  omega

def OneLine (s : String) : Prop := ∀ c ∈ s.toList, isControlOrBreak c = false

instance (s : String) : Decidable (OneLine s) := List.decidableBAll (isControlOrBreak · = false) s.toList

@[simp] theorem oneLine_append {s t : String} : OneLine (s ++ t) ↔ OneLine s ∧ OneLine t := by
  simp [OneLine, or_imp, forall_and]

theorem OneLine.not_mem {l : String} (h : OneLine l) {c : Char} (hc : isControlOrBreak c = true) : c ∉ l.toList := by
  intro hmem
  rw [h c hmem] at hc
  cases hc

/-! ## Lines of a text -/

def linesOf (body : String) : List String := (body.toList.splitOn '\n').map String.ofList

theorem linesOf_intercalate (hls : ls ≠ []) (h : ∀ l ∈ ls, OneLine l) : linesOf ("\n".intercalate ls) = ls := by
  have hplain : ∀ l ∈ ls.map String.toList, '\n' ∉ l := List.forall_mem_map.mpr fun l hl => (h l hl).not_mem rfl
  have htext : ("\n".intercalate ls).toList = ['\n'].intercalate (ls.map String.toList) := String.toList_intercalate
  rw [linesOf, htext, List.splitOn_intercalate '\n' hplain (by simpa using hls), List.map_map]
  simp

theorem intercalate_linesOf (body : String) : "\n".intercalate (linesOf body) = body := by
  have htext : ['\n'].intercalate (body.toList.splitOn '\n') = body.toList := List.intercalate_splitOn '\n'
  have hsame : String.toList ∘ String.ofList = id := funext fun _ => String.toList_ofList
  rw [← String.toList_inj, String.toList_intercalate, linesOf, List.map_map, hsame, List.map_id]
  exact htext

theorem linesOf_ne_nil (body : String) : linesOf body ≠ [] := by simp [linesOf]

/-! ## What is kept of a line -/

def blanksBehind (l : String) : Nat := (l.toList.reverse.takeWhile isBlank).length

/-- A line without those blanks at its end that are beyond so many characters. -/
def kept (width : Nat) (l : String) : String :=
  String.ofList (l.toList.take (l.length - min (blanksBehind l) (l.length - width)))

/-- A text that loses nothing where it has so many cells: it has no more characters, or no blank at its end. -/
def Whole (width : Nat) (l : String) : Prop := l.length ≤ width ∨ ∀ c ∈ l.toList.getLast?, isBlank c = false

theorem blanksBehind_le (l : String) : blanksBehind l ≤ l.length := by
  have hle := (l.toList.reverse.takeWhile_sublist isBlank).length_le
  rwa [List.length_reverse, String.length_toList] at hle

theorem blanksBehind_eq_zero_iff {l : String} : blanksBehind l = 0 ↔ ∀ c ∈ l.toList.getLast?, isBlank c = false := by
  rw [blanksBehind, List.length_eq_zero_iff, ← List.head?_reverse]
  cases l.toList.reverse <;> simp

theorem kept_eq_self_iff {width : Nat} {l : String} : kept width l = l ↔ Whole width l := by
  have hle := blanksBehind_le l
  rw [Whole, ← blanksBehind_eq_zero_iff, kept, ← String.toList_inj, String.toList_ofList, List.take_eq_self_iff,
    String.length_toList]
  omega

theorem exists_kept_append (width : Nat) (l : String) :
    ∃ blanks, l = kept width l ++ blanks ∧ ∀ c ∈ blanks.toList, isBlank c = true := by
  let cut := min (blanksBehind l) (l.length - width)
  refine ⟨String.ofList (l.toList.drop (l.length - cut)), ?_, ?_⟩
  · rw [kept, ← String.ofList_append, List.take_append_drop, String.ofList_toList]
  · intro c hc
    rw [String.toList_ofList, ← List.mem_reverse, ← String.length_toList, ← List.take_reverse] at hc
    have hbegin : l.toList.reverse.take cut <+: l.toList.reverse.takeWhile isBlank := by
      apply List.prefix_of_prefix_length_le (List.take_prefix _ _) (List.takeWhile_prefix isBlank)
      rw [List.length_take]
      exact Nat.le_trans (Nat.min_le_left _ _) (Nat.min_le_left _ _)
    exact List.mem_takeWhile_imp (hbegin.subset hc)

/-! ## Layouts -/

/-- What a console lays its sheets out by. -/
structure Layout where
  width : Nat
  /-- The cells that a text takes. -/
  cells : String → Nat
  /-- The rows of a text in so many cells. -/
  rows : Nat → String → Except LibraryError (List String)
  frame : Box → Outline

namespace Layout

def room (l : Layout) (ls : List String) : Nat := (ls.map l.cells).foldl max 0

def rule (left across right : Char) (room : Nat) : String :=
  String.ofList (left :: List.replicate (room + 2) across ++ [right])

def top (f : Outline) (room : Nat) : String := rule f.topLeft f.across f.topRight room

def bottom (f : Outline) (room : Nat) : String := rule f.bottomLeft f.across f.bottomRight room

/-- A line between two sides, with a blank at either end and filled up with blanks. -/
def row (l : Layout) (f : Outline) (room : Nat) (line : String) : String :=
  f.side.toString ++ " " ++ line ++ spaces (room - l.cells line) ++ " " ++ f.side.toString

def around (l : Layout) (f : Outline) (room : Nat) (rows : List String) : List String :=
  top f room :: rows.map (l.row f room) ++ [bottom f room]

end Layout

/-- A printable character of ASCII, or one that boxes are drawn with. -/
def isNarrow (c : Char) : Bool := (0x20 ≤ c.toNat && c.toNat < 0x7F) || (0x2500 ≤ c.toNat && c.toNat < 0x2580)

/-- The joiner hides the character behind it. -/
def joiner : Char := '\u200D'

def EndsInJoiner (s : String) : Prop := s.toList.getLast? = some joiner

def Outline.chars (f : Outline) : List Char :=
  [f.topLeft, f.topRight, f.bottomLeft, f.bottomRight, f.across, f.side]

/-- What is known of a console that does not print in color. -/
structure Layout.Describes (l : Layout) (console : Console) : Prop where
  /-- A text is printed in rows as wide as the console. -/
  text : ∀ body, (∀ line ∈ linesOf body, OneLine line) → 0 < l.width →
    console (.text body) = (l.rows l.width body).map printed
  /-- A panel is as wide as the widest line of its text needs, and the rows of the text stand in its frame. -/
  panel : ∀ body box style, (∀ line ∈ linesOf body, OneLine line) → 0 < l.room (linesOf body) →
    l.room (linesOf body) + 4 ≤ l.width →
    console (.panel body box style) =
      (l.rows (l.room (linesOf body)) body).map fun rows =>
        printed (l.around (l.frame box) (l.room (linesOf body)) rows)
  /-- Lines that fit are not broken, but blanks at their ends are taken off beyond the width. -/
  rows : ∀ width body, (∀ line ∈ linesOf body, OneLine line ∧ l.cells line ≤ width) →
    l.rows width body = .ok ((linesOf body).map (kept width))
  narrow : ∀ s, (∀ c ∈ s.toList, isNarrow c = true) → l.cells s = s.length
  begins : ∀ s t, l.cells s ≤ l.cells (s ++ t)
  /-- A blank takes one cell and what is behind it is measured anew. -/
  blank : ∀ s t, ¬ EndsInJoiner s → l.cells (s ++ " " ++ t) = l.cells s + 1 + l.cells t
  frame : ∀ box, ∀ c ∈ (l.frame box).chars, isNarrow c = true

/-! ## Room for lines -/

theorem le_foldl_max {n start : Nat} {ns : List Nat} (h : n ≤ start ∨ n ∈ ns) : n ≤ ns.foldl max start := by
  induction ns generalizing start with
  | nil => simpa using h
  | cons k rest ih =>
    apply ih
    rcases h with h | h
    · exact .inl (Nat.le_trans h (Nat.le_max_left start k))
    · rcases List.mem_cons.mp h with rfl | h
      · exact .inl (Nat.le_max_right start n)
      · exact .inr h

theorem foldl_max_le {n start : Nat} {ns : List Nat} (hstart : start ≤ n) (h : ∀ k ∈ ns, k ≤ n) :
    ns.foldl max start ≤ n := by
  induction ns generalizing start with
  | nil => exact hstart
  | cons k rest ih => exact ih (Nat.max_le.mpr ⟨hstart, h k (by simp)⟩) fun k hk => h k (by simp [hk])

namespace Layout

variable {l : Layout} {console : Console} {line : String}

theorem cells_le_room (h : line ∈ ls) : l.cells line ≤ l.room ls := le_foldl_max (.inr (List.mem_map_of_mem h))

theorem room_add_le {k n : Nat} (hls : ls ≠ []) (h : ∀ line ∈ ls, l.cells line + k ≤ n) : l.room ls + k ≤ n := by
  obtain ⟨line, hline⟩ := List.exists_mem_of_ne_nil ls hls
  have hk : k ≤ n := Nat.le_trans (Nat.le_add_left ..) (h line hline)
  have hmax : l.room ls ≤ n - k :=
    foldl_max_le (Nat.zero_le _) (List.forall_mem_map.mpr fun line hline => Nat.le_sub_of_add_le (h line hline))
  omega

namespace Describes

/-! ## Lines that fit -/

theorem cells_kept_le (h : l.Describes console) (width : Nat) (line : String) :
    l.cells (kept width line) ≤ l.cells line := by
  obtain ⟨blanks, happend, -⟩ := exists_kept_append width line
  have hbegins := h.begins (kept width line) blanks
  rwa [← happend] at hbegins

theorem rows_of_fits (h : l.Describes console) (hls : ls ≠ []) (hline : ∀ line ∈ ls, OneLine line) {width : Nat}
    (hfits : l.room ls ≤ width) : l.rows width ("\n".intercalate ls) = .ok (ls.map (kept width)) := by
  have hlines := linesOf_intercalate hls hline
  have hrows := h.rows width ("\n".intercalate ls)
  rw [hlines] at hrows
  exact hrows fun line hmem => ⟨hline line hmem, Nat.le_trans (cells_le_room hmem) hfits⟩

theorem console_text (h : l.Describes console) (hls : ls ≠ []) (hline : ∀ line ∈ ls, OneLine line)
    (hwidth : 0 < l.width) (hfits : l.room ls ≤ l.width) :
    console (.text ("\n".intercalate ls)) = .ok (printed (ls.map (kept l.width))) := by
  rw [h.text _ (by rwa [linesOf_intercalate hls hline]) hwidth, h.rows_of_fits hls hline hfits]
  rfl

theorem console_panel (h : l.Describes console) (hls : ls ≠ []) (hline : ∀ line ∈ ls, OneLine line)
    (hroom : 0 < l.room ls) (hfits : l.room ls + 4 ≤ l.width) (box : Box) (style : String) :
    console (.panel ("\n".intercalate ls) box style) =
      .ok (printed (l.around (l.frame box) (l.room ls) (ls.map (kept (l.room ls))))) := by
  have hpanel := h.panel ("\n".intercalate ls) box style
  rw [linesOf_intercalate hls hline, h.rows_of_fits hls hline (Nat.le_refl _)] at hpanel
  exact hpanel hline hroom hfits

/-! ## Cells of a frame -/

theorem cells_rule (h : l.Describes console) {box : Box} {left right : Char} (hleft : left ∈ (l.frame box).chars)
    (hright : right ∈ (l.frame box).chars) (room : Nat) :
    l.cells (rule left (l.frame box).across right room) = room + 4 := by
  have hacross : (l.frame box).across ∈ (l.frame box).chars := by simp [Outline.chars]
  rw [h.narrow]
  · simp only [rule, String.length_ofList, List.length_append, List.length_cons, List.length_replicate, List.length_nil]
  · simp [rule, h.frame box _ hleft, h.frame box _ hacross, h.frame box _ hright]

theorem cells_top (h : l.Describes console) (box : Box) (room : Nat) : l.cells (top (l.frame box) room) = room + 4 :=
  h.cells_rule (by simp [Outline.chars]) (by simp [Outline.chars]) room

theorem cells_bottom (h : l.Describes console) (box : Box) (room : Nat) :
    l.cells (bottom (l.frame box) room) = room + 4 :=
  h.cells_rule (by simp [Outline.chars]) (by simp [Outline.chars]) room

/-- The sides and the blanks take their cells beside the line, unless a joiner at its end hides the blank behind it. -/
theorem cells_row (h : l.Describes console) (box : Box) {room : Nat} (hroom : l.cells line ≤ room)
    (hline : ¬ EndsInJoiner line) : l.cells (l.row (l.frame box) room line) = room + 4 := by
  have hside : isNarrow (l.frame box).side = true := h.frame box _ (by simp [Outline.chars])
  unfold row
  generalize (l.frame box).side = side at hside ⊢
  let fill := room - l.cells line
  have hrow : side.toString ++ " " ++ line ++ spaces fill ++ " " ++ side.toString =
      side.toString ++ " " ++ (line ++ " " ++ (spaces fill ++ side.toString)) := by
    rw [← String.toList_inj]
    simp [spaces, ← List.replicate_succ', List.replicate_succ]
  have hend : ¬ EndsInJoiner side.toString := by
    rintro hjoiner
    obtain rfl : side = joiner := by simpa [EndsInJoiner] using hjoiner
    exact absurd hside (by decide)
  have hbegin : l.cells side.toString = 1 := by rw [h.narrow _ (by simpa using hside)]; simp
  have hbehind : l.cells (spaces fill ++ side.toString) = fill + 1 := by
    rw [h.narrow]
    · simp [spaces]
    · intro c hc
      rw [String.toList_append, spaces, String.toList_ofList, List.mem_append] at hc
      rcases hc with hc | hc
      · rw [List.eq_of_mem_replicate hc]; decide
      · obtain rfl : c = side := by simpa using hc
        exact hside
  rw [hrow, h.blank _ _ hend, h.blank _ _ hline, hbegin, hbehind]
  omega

end Describes

end Layout

end FunctionMetrics.Popup
