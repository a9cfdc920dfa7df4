import FunctionMetrics.Number.Layout
import Mathlib.Data.List.TakeDrop

/-!
# ASCII

Numbers are written with ASCII characters only.
-/

namespace FunctionMetrics

namespace Text

def IsAscii (s : String) : Prop := ∀ c ∈ s.toList, c.toNat < 128

instance (s : String) : Decidable (IsAscii s) := List.decidableBAll (fun c : Char => c.toNat < 128) s.toList

@[simp] theorem isAscii_append {s t : String} : IsAscii (s ++ t) ↔ IsAscii s ∧ IsAscii t := by
  simp [IsAscii, or_imp, forall_and]

@[simp] theorem isAscii_ofList {cs : List Char} : IsAscii (String.ofList cs) ↔ ∀ c ∈ cs, c.toNat < 128 := by
  simp [IsAscii]

theorem isAscii_take {s : String} (h : IsAscii s) (n : Nat) : IsAscii (s.take n).toString := by
  intro c hc
  change c ∈ (s.take n).copy.toList at hc
  rw [String.toList_copy_take] at hc
  exact h c (List.mem_of_mem_take hc)

theorem isAscii_drop {s : String} (h : IsAscii s) (n : Nat) : IsAscii (s.drop n).toString := by
  intro c hc
  change c ∈ (s.drop n).copy.toList at hc
  rw [String.toList_copy_drop] at hc
  exact h c (List.mem_of_mem_drop hc)

theorem toNat_lt_of_isDigit {c : Char} (h : c.isDigit = true) : c.toNat < 128 := by
  simp only [Char.isDigit, Bool.and_eq_true, decide_eq_true_eq] at h
  have hval : c.val.toNat ≤ 57 := UInt32.le_iff_toNat_le.mp h.2
  exact Nat.lt_of_le_of_lt hval (by decide)

theorem isAscii_natText (n : Nat) : IsAscii (toString n) := by
  rw [Nat.toString_eq_ofList_toDigits, isAscii_ofList]
  exact fun c hc => toNat_lt_of_isDigit (Nat.isDigit_of_mem_toDigits (by decide) (by decide) hc)

theorem isAscii_intText (n : Int) : IsAscii (toString n) := by
  cases n with
  | ofNat n => exact isAscii_natText n
  | negSucc n => exact isAscii_append.mpr ⟨by decide, isAscii_natText (n + 1)⟩

end Text

open Text

/-! ## Floating point numbers -/

namespace Layout

theorem isAscii_zeros (n : Nat) : IsAscii (zeros n) := by
  rw [zeros, isAscii_ofList]
  intro c hc
  rw [List.eq_of_mem_replicate hc]
  decide

theorem isAscii_digitText (d : Nat) : IsAscii (digitText d) := by
  unfold digitText
  split
  case h_1 => decide
  case h_2 cs hcs =>
    rw [isAscii_ofList]
    intro c hc
    have hmem : c ∈ Nat.toDigits 10 d :=
      List.mem_reverse.mp ((List.dropWhile_sublist _).mem (List.mem_reverse.mp hc))
    exact toNat_lt_of_isDigit (Nat.isDigit_of_mem_toDigits (by decide) (by decide) hmem)

theorem isAscii_exponentText (e : Int) : IsAscii (exponentText e) := by
  unfold exponentText
  have hsign : IsAscii (if e < 0 then "-" else "+") := by split <;> decide
  have hmark : IsAscii "e" := by decide
  have hsize := isAscii_natText e.natAbs
  simp only [isAscii_append]
  exact ⟨⟨⟨hmark, hsign⟩, isAscii_zeros _⟩, hsize⟩

theorem isAscii_withPoint {whole fraction : String} (hwhole : IsAscii whole) (hfraction : IsAscii fraction) :
    IsAscii (withPoint whole fraction) := by
  unfold withPoint
  split
  · exact hwhole
  · have hpoint : IsAscii "." := by decide
    simp [hwhole, hfraction, hpoint]

theorem isAscii_write (l : Layout) (s : Significand) : IsAscii (l.write s) := by
  have hdigits := isAscii_digitText s.digits
  unfold write
  dsimp only
  split
  · exact isAscii_append.mpr
      ⟨isAscii_withPoint (isAscii_take hdigits 1) (isAscii_drop hdigits 1), isAscii_exponentText _⟩
  · split
    · have hzero : IsAscii "0." := by decide
      simp [hzero, hdigits, isAscii_zeros]
    · apply isAscii_withPoint
      · exact isAscii_append.mpr ⟨isAscii_take hdigits _, isAscii_zeros _⟩
      · split
        · decide
        · exact isAscii_drop hdigits _

end Layout

namespace Binary64

theorem isAscii_signText (negative : Bool) : IsAscii (signText negative) := by cases negative <;> decide

theorem isAscii_textWith (l : Layout) (choose : Magnitude → Significand) (x : Binary64) : IsAscii (x.textWith l choose) := by
  cases x with
  | nan =>
    change IsAscii "nan"
    decide
  | infinity negative => exact isAscii_append.mpr ⟨isAscii_signText negative, by decide⟩
  | finite negative m => exact isAscii_append.mpr ⟨isAscii_signText negative, l.isAscii_write _⟩

end Binary64

end FunctionMetrics
