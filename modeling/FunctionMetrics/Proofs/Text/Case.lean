import FunctionMetrics.Proofs.Json.Scalars
import FunctionMetrics.Text.Case
import Mathlib.Data.List.Basic

/-!
# A word in any letter case

Only the letters of a word and their capitals become that word in small letters, if it has none that letters of other
scripts have for their small form.
-/

namespace FunctionMetrics.Text

/-! ## Letters -/

def lowerAscii (n : Nat) : Nat := if 0x41 ≤ n ∧ n ≤ 0x5A then n + 0x20 else n

theorem toNat_toLower (c : Char) : c.toLower.toNat = lowerAscii c.toNat := by
  unfold Char.toLower lowerAscii
  simp only [ge_iff_le, UInt32.le_iff_toNat_le]
  change (if h : 0x41 ≤ c.toNat ∧ c.toNat ≤ 0x5A then _ else c).toNat = _
  split
  case isTrue h =>
    change (c.val + 0x20).toNat = c.val.toNat + 0x20
    have hlt : c.val.toNat ≤ 0x5A := h.2
    rw [UInt32.toNat_add]
    exact Nat.mod_eq_of_lt (by change c.val.toNat + 32 < 4294967296; omega)
  case isFalse => rfl

/-- Signs and small letters that are the small form of no letter beyond ASCII. -/
def IsOwnSmall (t : Nat) : Prop := 0 < t ∧ t < 0x80 ∧ t ≠ 0x69 ∧ t ≠ 0x6B

instance (t : Nat) : Decidable (IsOwnSmall t) := inferInstanceAs (Decidable (_ ∧ _))

def Lowering.ascii : Lowering := ⟨0x41, 0x5A, 1, 0x61⟩

theorem ascii_mem_lowerings : Lowering.ascii ∈ lowerings := List.mem_of_mem_head? rfl

theorem lowering_cases {r : Lowering} (h : r ∈ lowerings) :
    r = .ascii ∨ 0x80 ≤ r.first ∧ (0x80 ≤ r.small ∨ r.first = r.last ∧ r.small = 0x6B) := by
  have hall : ∀ r ∈ lowerings,
      r = .ascii ∨ 0x80 ≤ r.first ∧ (0x80 ≤ r.small ∨ r.first = r.last ∧ r.small = 0x6B) := by decide +kernel
  exact hall r h

theorem lowerCode_cases (n : Nat) :
    (∃ r ∈ lowerings, r.first ≤ n ∧ n ≤ r.last ∧ lowerCode n = r.small + (n - r.first)) ∨
    ¬ (0x41 ≤ n ∧ n ≤ 0x5A) ∧ lowerCode n = n := by
  unfold lowerCode
  split
  case h_1 r hr =>
    have hplace := List.find?_some hr
    obtain ⟨hfirst, hlast, -⟩ := of_decide_eq_true hplace
    exact .inl ⟨r, List.mem_of_find?_eq_some hr, hfirst, hlast, rfl⟩
  case h_2 hnone =>
    refine .inr ⟨?_, rfl⟩
    rintro ⟨hfirst, hlast⟩
    have hascii := List.find?_eq_none.mp hnone _ ascii_mem_lowerings
    simp [Lowering.ascii, hfirst, hlast, Nat.mod_one] at hascii

theorem lowerCode_of_lt {n : Nat} (h : n < 0x80) : lowerCode n = lowerAscii n := by
  unfold lowerAscii
  rcases lowerCode_cases n with ⟨r, hr, hfirst, hlast, hcode⟩ | ⟨hother, hcode⟩
  · rcases lowering_cases hr with rfl | ⟨hbeyond, -⟩
    · simp only [Lowering.ascii] at hfirst hlast hcode
      rw [if_pos ⟨hfirst, hlast⟩]
      omega
    · omega
  · rw [if_neg hother, hcode]

theorem lowerCode_eq_iff {n t : Nat} (ht : IsOwnSmall t) : lowerCode n = t ↔ lowerAscii n = t := by
  obtain ⟨-, hlt, -, hunit⟩ := ht
  constructor
  · intro h
    have hascii : n < 0x80 := by
      rcases lowerCode_cases n with ⟨r, hr, hfirst, hlast, hcode⟩ | ⟨-, hcode⟩
      · rcases lowering_cases hr with rfl | ⟨-, hlarge | ⟨hsingle, hsmall⟩⟩
        · exact Nat.lt_of_le_of_lt hlast (by decide)
        · omega
        · omega
      · omega
    rwa [lowerCode_of_lt hascii] at h
  · intro h
    have hascii : n < 0x80 := by
      unfold lowerAscii at h
      split at h <;> omega
    rwa [lowerCode_of_lt hascii]

/-! ## Words -/

theorem lowerAt_append_eq_iff {n t : Nat} (ht : IsOwnSmall t) (before behind : Codes) {rest word : Codes} :
    lowerAt before n behind ++ rest = t :: word ↔ lowerAscii n = t ∧ rest = word := by
  have hlt := ht.2.1
  unfold lowerAt
  by_cases hsigma : n = capitalSigma
  · have hne : lowerAscii n ≠ t := by
      rw [hsigma]
      change 0x3A3 ≠ t
      omega
    have hother : (if meetsLetter before ∧ ¬ meetsLetter behind then finalSigma else smallSigma) ≠ t := by
      unfold finalSigma smallSigma
      split_ifs <;> omega
    rw [if_pos hsigma, List.singleton_append, List.cons.injEq]
    exact ⟨fun h => absurd h.1 hother, fun h => absurd h.1 hne⟩
  by_cases hdot : n = dottedCapitalI
  · have hne : lowerAscii n ≠ t := by
      rw [hdot]
      change 0x130 ≠ t
      omega
    rw [if_neg hsigma, if_pos hdot, List.cons_append, List.cons.injEq]
    exact ⟨fun h => absurd h.1.symm ht.2.2.1, fun h => absurd h.1 hne⟩
  · rw [if_neg hsigma, if_neg hdot, List.singleton_append, List.cons.injEq, lowerCode_eq_iff ht]

theorem lowerAfter_eq_iff {codes word : Codes} (hword : ∀ t ∈ word, IsOwnSmall t) (before : Codes) :
    lowerAfter before codes = word ↔ codes.map lowerAscii = word := by
  induction codes generalizing before word with
  | nil => rfl
  | cons n rest ih =>
    rw [lowerAfter, List.map_cons]
    cases word with
    | nil =>
      have hne : lowerAt before n rest ≠ [] := by
        unfold lowerAt
        split_ifs <;> simp
      simp [hne]
    | cons t word =>
      have hrest : ∀ t ∈ word, IsOwnSmall t := fun t ht => hword t (List.mem_cons_of_mem _ ht)
      rw [lowerAt_append_eq_iff (hword t List.mem_cons_self), ih hrest, List.cons.injEq]

theorem charOf_eq_iff {n : Nat} {c : Char} (hc : IsOwnSmall c.toNat) : charOf n = c ↔ n = c.toNat := by
  constructor
  · rintro rfl
    obtain ⟨hpos, hlt, -⟩ := hc
    unfold charOf at hpos hlt ⊢
    split at hlt
    case isTrue => exact absurd hlt (by decide)
    case isFalse h =>
      rw [if_neg h] at hpos ⊢
      by_cases hvalid : n.isValidChar
      · exact (Utf8.toNat_charOfNat hvalid).symm
      · rw [Char.ofNat, dif_neg hvalid] at hpos
        exact absurd hpos (by decide)
  · rintro rfl
    exact charOf_toNat c

theorem chars_eq_iff {codes : Codes} {cs : List Char} (hcs : ∀ c ∈ cs, IsOwnSmall c.toNat) :
    codes.chars = cs ↔ codes = Codes.ofChars cs := by
  unfold Codes.chars Codes.ofChars
  induction codes generalizing cs with
  | nil => cases cs <;> simp
  | cons n rest ih =>
    cases cs with
    | nil => simp
    | cons c cs =>
      have hrest : ∀ c ∈ cs, IsOwnSmall c.toNat := fun c hc => hcs c (List.mem_cons_of_mem _ hc)
      rw [List.map_cons, List.map_cons, List.cons.injEq, List.cons.injEq, charOf_eq_iff (hcs c List.mem_cons_self),
        ih hrest]

/-- A text has the small form of a word exactly if it is that word in some letter case. -/
theorem lowerText_eq_iff {s word : String} (hword : ∀ c ∈ word.toList, IsOwnSmall c.toNat) :
    lowerText s = word ↔ s.toList.map Char.toLower = word.toList := by
  have hcodes : ∀ t ∈ Codes.ofChars word.toList, IsOwnSmall t := by
    intro t ht
    obtain ⟨c, hc, rfl⟩ := List.mem_map.mp ht
    exact hword c hc
  have hinjective : Function.Injective Char.toNat := fun a b h => Char.toNat_inj.mp h
  have hmap : (Codes.ofString s).map lowerAscii = Codes.ofChars (s.toList.map Char.toLower) := by
    simp only [Codes.ofString, Codes.ofChars, List.map_map, Function.comp_def, toNat_toLower]
  calc lowerText s = word
      ↔ (lower (Codes.ofString s)).chars = word.toList := by
        rw [lowerText, Codes.shown, ← String.toList_inj, String.toList_ofList]
    _ ↔ lower (Codes.ofString s) = Codes.ofChars word.toList := chars_eq_iff hword
    _ ↔ (Codes.ofString s).map lowerAscii = Codes.ofChars word.toList := lowerAfter_eq_iff hcodes []
    _ ↔ s.toList.map Char.toLower = word.toList := by
        rw [hmap]
        exact (List.map_injective_iff.mpr hinjective).eq_iff

end FunctionMetrics.Text
