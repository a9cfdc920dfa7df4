import FunctionMetrics.Json.Reader
import Mathlib.Data.List.TakeDrop
import Mathlib.Data.List.TakeWhile
import Mathlib.Tactic.SplitIfs

/-!
# The fuel of the reader

What is left of a text behind a part of it is never longer than the text, and a bracket takes two units of fuel. So the
fuel for a text is enough for all that is in it: with more fuel the reader gives the same answer.
-/

namespace FunctionMetrics.Json

variable {α β : Type} {s s' : List Char} {x : Except Fault (α × List Char)}

/-! ## What is left -/

def Leaves (s : List Char) (x : Except Fault (α × List Char)) : Prop := ∀ a r, x = .ok (a, r) → r.length ≤ s.length

theorem leaves_error (e : Fault) : Leaves s (.error e : Except Fault (α × List Char)) := by
  intro a r h
  cases h

theorem leaves_ok {a : α} {r : List Char} (h : r.length ≤ s.length) : Leaves s (.ok (a, r)) := by
  intro a r h
  cases h
  exact ‹_›

theorem Leaves.map (h : Leaves s x) (f : α → β) : Leaves s (x.map fun (a, r) => (f a, r)) := by
  cases x with
  | error e => exact leaves_error e
  | ok a => exact leaves_ok (h a.1 a.2 rfl)

theorem Leaves.mono (h : Leaves s x) (hs : s.length ≤ s'.length) : Leaves s' x := fun a r hx =>
  Nat.le_trans (h a r hx) hs

theorem Leaves.bind {f : α × List Char → Except Fault (β × List Char)} (h : Leaves s x)
    (hf : ∀ a r, x = .ok (a, r) → r.length ≤ s.length → Leaves s (f (a, r))) : Leaves s (x >>= f) := by
  cases hx : x with
  | error e => exact leaves_error e
  | ok a => exact hf a.1 a.2 hx (h a.1 a.2 hx)

theorem length_skipSpace_le (s : List Char) : (skipSpace s).length ≤ s.length := (List.dropWhile_suffix _).length_le

theorem length_skipSpace_tail {c : Char} {after : List Char} (h : skipSpace s = c :: after) :
    after.length < s.length := by
  have hle := length_skipSpace_le s
  rw [h] at hle
  exact hle

theorem length_skipSpace_behind {c : Char} {after : List Char} (h : skipSpace s = c :: after) :
    (skipSpace after).length < s.length :=
  Nat.lt_of_le_of_lt (length_skipSpace_le after) (length_skipSpace_tail h)

theorem leaves_readString (start s : List Char) : Leaves s (readString start s) := by
  fun_induction readString start s
  case case2 => exact leaves_ok (by simp)
  case case6 ih | case7 ih | case8 ih | case10 ih | case13 ih | case15 ih => exact (ih.map _).mono (by simp; try omega)
  all_goals exact leaves_error _

/-! ## Scalars -/

theorem length_spanDigits_le (s : List Char) : (spanDigits s).2.length ≤ s.length := by
  rw [spanDigits, List.span_eq_takeWhile_dropWhile]
  exact (List.dropWhile_suffix _).length_le

theorem length_readFraction_le (s : List Char) : (readFraction s).2.length ≤ s.length := by
  fun_cases readFraction s
  case case2 rest _ => exact Nat.le_succ_of_le (length_spanDigits_le rest)
  all_goals exact Nat.le_refl _

theorem length_readExponent_le (s : List Char) : (readExponent s).2.length ≤ s.length := by
  fun_cases readExponent s
  case case2 rest _ negative body hsign ds after hdigits _ =>
    have hbody : body.length ≤ rest.length := by
      split at hsign <;> cases hsign <;> simp
    have hafter := length_spanDigits_le body
    rw [hdigits] at hafter
    exact Nat.le_succ_of_le (Nat.le_trans hafter hbody)
  all_goals exact Nat.le_refl _

theorem leaves_readSize (negative : Bool) (start s : List Char) : Leaves s (readSize negative start s) := by
  unfold readSize
  extract_lets whole fraction exponent
  have hwhole : whole.2.length ≤ s.length := by
    subst whole
    split
    · exact Nat.le_succ _
    · exact length_spanDigits_le s
  have hfraction : fraction.2.length ≤ whole.2.length := length_readFraction_le whole.2
  have hexponent : exponent.2.length ≤ fraction.2.length := length_readExponent_le fraction.2
  split
  · exact leaves_error _
  · split
    · split
      · exact leaves_error _
      · exact leaves_ok hwhole
    · exact leaves_ok (by omega)

theorem leaves_readScalar (s : List Char) : Leaves s (readScalar s) := by
  unfold readScalar
  split
  case h_1 found hfound =>
    obtain ⟨⟨w, v⟩, -, hword⟩ := List.exists_of_findSome?_eq_some hfound
    unfold word? at hword
    dsimp only at hword
    split_ifs at hword
    · obtain rfl := Option.some.inj hword
      exact leaves_ok (by simp)
    · cases hword
  case h_2 =>
    apply Leaves.map
    split
    · exact (leaves_readSize _ _ _).mono (Nat.le_succ _)
    · exact leaves_readSize _ _ _

/-! ## Values -/

section

variable {fuel : Nat} (hvalue : ∀ s, Leaves s (readValue fuel s)) (hitems : ∀ s, Leaves s (readItems fuel s))
  (hentries : ∀ s, Leaves s (readEntries fuel s))

include hitems hentries in
theorem leaves_readValue_succ (s : List Char) : Leaves s (readValue (fuel + 1) s) := by
  rw [readValue.eq_def]
  dsimp only
  split
  case h_1 rest => exact ((leaves_readString _ rest).map _).mono (Nat.le_succ _)
  case h_2 rest =>
    split
    case h_1 after hafter => exact leaves_ok (Nat.le_succ_of_le (Nat.le_of_lt (length_skipSpace_tail hafter)))
    case h_2 => exact ((hitems _).map _).mono (Nat.le_succ_of_le (length_skipSpace_le rest))
  case h_3 rest =>
    split
    case h_1 after hafter => exact leaves_ok (Nat.le_succ_of_le (Nat.le_of_lt (length_skipSpace_tail hafter)))
    case h_2 =>
      have hread := (hentries (skipSpace rest)).map fun es => Value.map (Entries.ofList es)
      exact hread.mono (Nat.le_succ_of_le (length_skipSpace_le rest))
  case h_4 => exact leaves_readScalar s

include hvalue hitems in
theorem leaves_readItems_succ (s : List Char) : Leaves s (readItems (fuel + 1) s) := by
  rw [readItems]
  apply (hvalue s).bind
  intro v r _ hr
  dsimp only
  split
  case h_1 after hafter => exact leaves_ok (Nat.le_trans (Nat.le_of_lt (length_skipSpace_tail hafter)) hr)
  case h_2 after hafter =>
    have hmore : (skipSpace after).length ≤ s.length := by
      have hbehind := length_skipSpace_behind hafter
      omega
    exact ((hitems _).mono hmore).bind fun vs r' _ hr' => leaves_ok hr'
  case h_3 => exact leaves_error _

include hvalue hentries in
theorem leaves_readEntries_succ (s : List Char) : Leaves s (readEntries (fuel + 1) s) := by
  rw [readEntries.eq_def]
  dsimp only
  split
  case h_1 body =>
    apply ((leaves_readString _ body).mono (Nat.le_succ _)).bind
    intro cs r _ hr
    dsimp only
    split
    case h_1 r' hcolon =>
      apply ((hvalue _).mono (Nat.le_trans (Nat.le_of_lt (length_skipSpace_behind hcolon)) hr)).bind
      intro v r'' _ hr''
      dsimp only
      split
      case h_1 after hafter => exact leaves_ok (Nat.le_trans (Nat.le_of_lt (length_skipSpace_tail hafter)) hr'')
      case h_2 after hafter =>
        have hmore := Nat.le_trans (Nat.le_of_lt (length_skipSpace_behind hafter)) hr''
        exact ((hentries _).mono hmore).bind fun vs r' _ hr' => leaves_ok hr'
      case h_3 => exact leaves_error _
    case h_2 => exact leaves_error _
  case h_2 => exact leaves_error _

end

/-- What the three readers leave of a text, with any fuel. -/
theorem leaves_readers (fuel : Nat) :
    (∀ s, Leaves s (readValue fuel s)) ∧ (∀ s, Leaves s (readItems fuel s)) ∧ ∀ s, Leaves s (readEntries fuel s) := by
  induction fuel with
  | zero => exact ⟨fun s => leaves_error _, fun s => leaves_error _, fun s => leaves_error _⟩
  | succ fuel ih =>
    obtain ⟨hvalue, hitems, hentries⟩ := ih
    exact ⟨leaves_readValue_succ hitems hentries, leaves_readItems_succ hvalue hitems,
      leaves_readEntries_succ hvalue hentries⟩

/-! ## Fuel -/

theorem bind_congr_of_ok {ε γ δ : Type} {x : Except ε γ} {f g : γ → Except ε δ} (h : ∀ a, x = .ok a → f a = g a) :
    x >>= f = x >>= g := by
  cases x with
  | error e => rfl
  | ok a => exact h a rfl

/-- One more unit of fuel changes nothing where there are two for each character. -/
def Enough (fuel : Nat) : Prop :=
  (∀ s : List Char, 2 * s.length < fuel → readValue (fuel + 1) s = readValue fuel s) ∧
  (∀ s : List Char, 2 * s.length + 1 < fuel → readItems (fuel + 1) s = readItems fuel s) ∧
  ∀ s : List Char, 2 * s.length + 1 < fuel → readEntries (fuel + 1) s = readEntries fuel s

section

variable {fuel : Nat} (h : Enough fuel)

include h

theorem Enough.readValue_succ (hs : 2 * s.length < fuel + 1) : readValue (fuel + 2) s = readValue (fuel + 1) s := by
  obtain ⟨-, hitems, hentries⟩ := h
  rw [readValue.eq_def, readValue.eq_def]
  dsimp only
  split
  case h_1 => rfl
  case h_2 rest =>
    have hrest := length_skipSpace_le rest
    split
    case h_1 => rfl
    case h_2 => rw [hitems (skipSpace rest) (by simp at hs; omega)]
  case h_3 rest =>
    have hrest := length_skipSpace_le rest
    split
    case h_1 => rfl
    case h_2 => rw [hentries (skipSpace rest) (by simp at hs; omega)]
  case h_4 => rfl

theorem Enough.readItems_succ (hs : 2 * s.length + 1 < fuel + 1) : readItems (fuel + 2) s = readItems (fuel + 1) s := by
  obtain ⟨hvalue, hitems, -⟩ := h
  obtain ⟨leavesValue, -, -⟩ := leaves_readers fuel
  rw [readItems, readItems, hvalue s (by omega)]
  apply bind_congr_of_ok
  rintro ⟨v, r⟩ hv
  have hr := leavesValue s v r hv
  dsimp only
  split
  case h_1 => rfl
  case h_2 after hafter =>
    have hbehind := length_skipSpace_behind hafter
    rw [hitems (skipSpace after) (by omega)]
  case h_3 => rfl

theorem Enough.readEntries_succ (hs : 2 * s.length + 1 < fuel + 1) :
    readEntries (fuel + 2) s = readEntries (fuel + 1) s := by
  obtain ⟨hvalue, -, hentries⟩ := h
  obtain ⟨leavesValue, -, -⟩ := leaves_readers fuel
  rw [readEntries.eq_def, readEntries.eq_def]
  dsimp only
  split
  case h_1 body =>
    apply bind_congr_of_ok
    rintro ⟨cs, r⟩ hcs
    have hr := leaves_readString _ body cs r hcs
    dsimp only
    split
    case h_1 r' hcolon =>
      have hbehind := length_skipSpace_behind hcolon
      simp only [List.length_cons] at hs
      rw [hvalue (skipSpace r') (by omega)]
      apply bind_congr_of_ok
      rintro ⟨v, r''⟩ hv
      have hr'' := leavesValue _ v r'' hv
      dsimp only
      split
      case h_1 => rfl
      case h_2 after hafter =>
        have hbehind' := length_skipSpace_behind hafter
        rw [hentries (skipSpace after) (by omega)]
      case h_3 => rfl
    case h_2 => rfl
  case h_2 => rfl

end

theorem enough (fuel : Nat) : Enough fuel := by
  induction fuel with
  | zero => simp [Enough]
  | succ fuel ih => exact ⟨fun s => ih.readValue_succ, fun s => ih.readItems_succ, fun s => ih.readEntries_succ⟩

/-- The fuel for a text is enough: whatever is read of it, and whatever is wrong with it, is the same with more. -/
theorem readValue_of_fuel (s : List Char) {fuel : Nat} (h : fuelFor s ≤ fuel) :
    readValue fuel (skipSpace s) = readValue (fuelFor s) (skipSpace s) := by
  have hspace := length_skipSpace_le s
  induction fuel, h using Nat.le_induction with
  | base => rfl
  | succ fuel hfuel ih =>
    unfold fuelFor at hfuel
    rw [(enough fuel).1 _ (by omega), ih]

end FunctionMetrics.Json
