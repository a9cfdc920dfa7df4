import FunctionMetrics.Proofs.Terminal.Cells
import FunctionMetrics.Terminal.Wrap
import Mathlib.Algebra.GroupWithZero.Nat
import Mathlib.Data.List.DropRight
import Mathlib.Data.List.TakeDrop
import Mathlib.Data.List.TakeWhile

/-!
# Lines that fit

A line that takes no more cells than there are is not broken, whatever words it has. It only loses blanks at its end,
and only where it has more characters than there are cells.
-/

namespace FunctionMetrics.Terminal

open Text

variable {p : Char → Bool} {cs w rest : List Char}

/-! ## Lines of a text -/

theorem splitAll_cons (q : Char → Bool) (d : Char) (rest : List Char) :
    splitAll q (d :: rest) =
      if q d then [] :: splitAll q rest
      else match splitAll q rest with
        | line :: lines => (d :: line) :: lines
        | [] => [[d]] := rfl

theorem splitAll_eq_splitOnP (p : Char → Bool) (cs : List Char) : splitAll p cs = cs.splitOnP p := by
  induction cs with
  | nil => rfl
  | cons d rest ih =>
    rw [splitAll_cons, List.splitOnP_cons_eq_if_modifyHead, ih]
    cases h : rest.splitOnP p with
    | nil => exact absurd h (List.splitOnP_ne_nil p rest)
    | cons line lines => rfl

theorem splitAll_eq_singleton (h : ∀ c ∈ cs, p c = false) : splitAll p cs = [cs] := by
  rw [splitAll_eq_splitOnP, List.splitOnP_eq_singleton h]

theorem splitAll_intercalate {d : Char} (hd : p d = true) {ls : List (List Char)} (hls : ls ≠ [])
    (h : ∀ l ∈ ls, ∀ c ∈ l, p c = false) : splitAll p ([d].intercalate ls) = ls := by
  induction ls with
  | nil => exact absurd rfl hls
  | cons l rest ih =>
    cases rest with
    | nil => simpa using splitAll_eq_singleton (h l (by simp))
    | cons l' rest =>
      have hrest := ih (by simp) fun l hl => h l (by simp [hl])
      rw [List.intercalate_cons_cons, List.append_assoc, List.singleton_append, splitAll_eq_splitOnP,
        List.splitOnP_append_cons_of_forall_mem (h l (by simp)) d hd, ← splitAll_eq_splitOnP, hrest]

theorem expandTabs_eq_self (h : '\t' ∉ cs) : expandTabs cs = cs := by
  rw [expandTabs, splitAll_eq_singleton fun c hc => decide_eq_false (by rintro rfl; exact h hc)]
  rfl

/-! ## Words of a line -/

theorem head?_dropWhile {q : Char → Bool} {c : Char} (h : (cs.dropWhile q).head? = some c) : q c = false := by
  have hnot := List.head?_dropWhile_not q cs
  rwa [h] at hnot

theorem nextWord?_eq_none (h : nextWord? cs = none) : ∀ c ∈ cs, isBlank c = true := by
  unfold nextWord? at h
  simp only [List.span_eq_takeWhile_dropWhile] at h
  split at h
  case isTrue hword =>
    cases hrest : cs.dropWhile isBlank with
    | nil => exact List.dropWhile_eq_nil_iff.mp hrest
    | cons c rest =>
      have hc : isBlank c = false := head?_dropWhile (by rw [hrest]; rfl)
      rw [hrest, List.takeWhile_cons, hc] at hword
      cases hword
  case isFalse => cases h

theorem nextWord?_eq (h : nextWord? cs = some (w, rest)) : w ++ rest = cs := by
  unfold nextWord? at h
  simp only [List.span_eq_takeWhile_dropWhile] at h
  split at h
  case isTrue => cases h
  case isFalse =>
    obtain ⟨rfl, rfl⟩ := Prod.mk.inj (Option.some.inj h)
    simp [List.takeWhile_append_dropWhile]

/-- Behind a word with its blanks comes nothing or another word. -/
theorem nextWord?_spec (h : nextWord? cs = some (w, rest)) :
    w ≠ [] ∧ (∀ c ∈ rest.head?, isBlank c = false) ∧ (rest ≠ [] → endsOpen w = false) := by
  unfold nextWord? at h
  simp only [List.span_eq_takeWhile_dropWhile] at h
  split at h
  case isTrue => cases h
  case isFalse hword =>
    obtain ⟨rfl, rfl⟩ := Prod.mk.inj (Option.some.inj h)
    refine ⟨by simp [hword], fun c hc => head?_dropWhile hc, ?_⟩
    -- What comes behind the word begins with a blank, so the last of its blanks is no joiner.
    intro hrest
    generalize hbehind : (cs.dropWhile isBlank).dropWhile (! isBlank ·) = behind at hrest ⊢
    cases behind with
    | nil => exact absurd rfl hrest
    | cons c tail =>
      have hhead : (! isBlank c) = false := head?_dropWhile (by rw [hbehind]; rfl)
      have hc : isBlank c = true := by simpa using hhead
      have hblanks : (c :: tail).takeWhile isBlank ≠ [] := by rw [List.takeWhile_cons, if_pos hc]; simp
      apply endsOpen_eq_false
      rw [List.getLast?_append_of_ne_nil _ hblanks]
      intro hlast
      have hjoiner := List.mem_takeWhile_imp (List.mem_of_getLast? hlast)
      exact absurd hjoiner (by decide)

theorem words_ne_nil {fuel : Nat} {c : Char} (hfuel : 0 < fuel) (hhead : cs.head? = some c) (hc : isBlank c = false) :
    words fuel cs ≠ [] := by
  cases fuel with
  | zero => cases hfuel
  | succ fuel =>
    unfold words
    cases hnext : nextWord? cs with
    | none =>
      rw [nextWord?_eq_none hnext c (List.mem_of_head? hhead)] at hc
      cases hc
    | some next => simp

theorem flatten_words {fuel : Nat} (hfuel : cs.length < fuel) (h : cs ≠ [] → words fuel cs ≠ []) :
    (words fuel cs).flatten = cs := by
  induction fuel generalizing cs with
  | zero => omega
  | succ fuel ih =>
    unfold words at h ⊢
    cases hnext : nextWord? cs with
    | none =>
      by_contra hcs
      exact h (fun hnil => hcs (by rw [hnil]; rfl)) (by rw [hnext])
    | some next =>
      obtain ⟨w, rest⟩ := next
      obtain ⟨hw, hrest, -⟩ := nextWord?_spec hnext
      have happend := nextWord?_eq hnext
      have hlength := congrArg List.length happend
      have hpos := List.length_pos_iff.mpr hw
      rw [List.length_append] at hlength
      have hwords : rest ≠ [] → words fuel rest ≠ [] := by
        intro hne
        obtain ⟨c, tail, rfl⟩ := List.exists_cons_of_ne_nil hne
        exact words_ne_nil (by omega) rfl (hrest c rfl)
      change w ++ (words fuel rest).flatten = cs
      rw [ih (by omega) hwords, happend]

theorem sum_cells_words_le (fuel : Nat) (cs : List Char) : ((words fuel cs).map cells).sum ≤ cells cs := by
  induction fuel generalizing cs with
  | zero => exact Nat.zero_le _
  | succ fuel ih =>
    unfold words
    cases hnext : nextWord? cs with
    | none => exact Nat.zero_le _
    | some next =>
      obtain ⟨w, rest⟩ := next
      have happend := nextWord?_eq hnext
      have hparts : cells w + cells rest ≤ cells cs := by
        rw [← happend]
        by_cases hrest : rest = []
        · rw [hrest, List.append_nil]
          exact Nat.le_refl _
        · exact add_cells_le ((nextWord?_spec hnext).2.2 hrest) rest
      have hsum := ih rest
      simp only [List.map_cons, List.sum_cons]
      omega

theorem trimEnd_isPrefix (cs : List Char) : trimEnd cs <+: cs := List.rdropWhile_prefix isBlank cs

theorem fill_of_fits {width : Nat} {ws : List (List Char)} {line : List Char} {used : Nat}
    (h : used + (ws.map cells).sum ≤ width) : fill width line used ws = [line ++ ws.flatten] := by
  induction ws generalizing line used with
  | nil => simp [fill]
  | cons w rest ih =>
    simp only [List.map_cons, List.sum_cons] at h
    have hsize := cells_le_of_isPrefix (trimEnd_isPrefix w)
    unfold fill
    dsimp only
    rw [if_pos (by omega), ih (by omega), List.flatten_cons, List.append_assoc]

/-! ## Wrapping -/

theorem trimExcess_isPrefix (width : Nat) (cs : List Char) : trimExcess width cs <+: cs := List.take_prefix _ _

theorem crop_of_fits {width : Nat} (h : cells cs ≤ width) : crop width cs = .ok cs := by
  unfold crop; exact if_pos h

theorem wrapLine_of_fits {width : Nat} (htab : '\t' ∉ cs) (h : cells cs ≤ width) :
    wrapLine width cs = .ok [trimExcess width cs] := by
  have hcrop := crop_of_fits (Nat.le_trans (cells_le_of_isPrefix (trimExcess_isPrefix width cs)) h)
  have hsum := sum_cells_words_le (cs.length + 1) cs
  have hflatten : words (cs.length + 1) cs ≠ [] → (words (cs.length + 1) cs).flatten = cs :=
    fun hwords => flatten_words (Nat.lt_succ_self _) fun _ => hwords
  unfold wrapLine
  rw [expandTabs_eq_self htab]
  dsimp only
  generalize words (cs.length + 1) cs = ws at hsum hflatten ⊢
  cases ws with
  | nil => rw [List.mapM_cons, hcrop]; rfl
  | cons w rest =>
    dsimp only
    rw [fill_of_fits (by omega), List.nil_append, hflatten (by simp), List.mapM_cons, hcrop]
    rfl

theorem wrap_of_fits {width : Nat} {ls : List (List Char)} (hls : ls ≠ []) (hline : ∀ l ∈ ls, '\n' ∉ l ∧ '\t' ∉ l)
    (h : ∀ l ∈ ls, cells l ≤ width) : wrap width (['\n'].intercalate ls) = .ok (ls.map (trimExcess width)) := by
  have hlines : lines (['\n'].intercalate ls) = ls :=
    splitAll_intercalate (by decide) hls fun l hl c hc => decide_eq_false (by rintro rfl; exact (hline l hl).1 hc)
  have hrows : ls.mapM (wrapLine width) = .ok (ls.map fun l => [trimExcess width l]) := by
    clear hls hlines
    induction ls with
    | nil => rfl
    | cons l rest ih =>
      rw [List.mapM_cons, wrapLine_of_fits (hline l (by simp)).2 (h l (by simp)),
        ih (fun l hl => hline l (by simp [hl])) fun l hl => h l (by simp [hl])]
      rfl
  rw [wrap, hlines, hrows]
  change Except.ok (ls.map fun l => [trimExcess width l]).flatten = _
  rw [← List.flatMap_def, ← List.map_eq_flatMap]

theorem widest_intercalate {ls : List (List Char)} (hls : ls ≠ []) (h : ∀ l ∈ ls, ∀ c ∈ l, isLineEnd c = false) :
    widest (['\n'].intercalate ls) = (ls.map cells).foldl max 0 := by
  rw [widest, splitAll_intercalate (by decide) hls h]

end FunctionMetrics.Terminal
