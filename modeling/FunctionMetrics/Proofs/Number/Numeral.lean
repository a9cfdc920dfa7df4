import FunctionMetrics.Proofs.Json.Numbers

/-!
# Characters of numbers

Numbers are written with few characters. So the text of one ends where any other character stands, and a whole number is
known from its text.
-/

namespace FunctionMetrics

open Json

def isNumeral (c : Char) : Bool := Text.isAsciiDigit c || ['+', '-', '.', 'e', 'E'].contains c

theorem isNumeral_of_digits {ds : List Char} (h : IsDigits ds) : ∀ c ∈ ds, isNumeral c = true := by
  intro c hc
  simp [isNumeral, h.2 c hc]

theorem isNumeral_of_fraction {behind fs : List Char} (h : SpellsFraction behind fs) :
    ∀ c ∈ behind, isNumeral c = true := by
  cases h with
  | none => simp
  | some hfs => exact List.forall_mem_cons.mpr ⟨rfl, isNumeral_of_digits hfs⟩

theorem isNumeral_of_exponent {es : List Char} {e : Option Int} (h : SpellsExponent es e) :
    ∀ c ∈ es, isNumeral c = true := by
  have hmark : ∀ m : Char, m = 'e' ∨ m = 'E' → isNumeral m = true := by
    rintro m (rfl | rfl) <;> rfl
  cases h with
  | none => simp
  | plain hm hds => exact List.forall_mem_cons.mpr ⟨hmark _ hm, isNumeral_of_digits hds⟩
  | plus hm hds | minus hm hds =>
    exact List.forall_mem_cons.mpr ⟨hmark _ hm, List.forall_mem_cons.mpr ⟨rfl, isNumeral_of_digits hds⟩⟩

theorem isNumeral_signed {negative : Bool} {cs : List Char} (h : ∀ c ∈ cs, isNumeral c = true) :
    ∀ c ∈ signed negative cs, isNumeral c = true := by
  cases negative with
  | false => exact h
  | true => exact List.forall_mem_cons.mpr ⟨rfl, h⟩

theorem isNumeral_decimal {negative : Bool} {ds behind fs es : List Char} {e : Option Int} (hds : IsDigits ds)
    (hbehind : SpellsFraction behind fs) (hes : SpellsExponent es e) :
    ∀ c ∈ signed negative (ds ++ behind ++ es), isNumeral c = true := by
  apply isNumeral_signed
  simp only [List.forall_mem_append]
  exact ⟨⟨isNumeral_of_digits hds, isNumeral_of_fraction hbehind⟩, isNumeral_of_exponent hes⟩

theorem isNumeral_intText (n : Int) : ∀ c ∈ (toString n).toList, isNumeral c = true := by
  rw [toList_intText]
  exact isNumeral_signed (isNumeral_of_digits (isDigits_toDigits _))

theorem not_mem_of_isNumeral {cs : List Char} (h : ∀ c ∈ cs, isNumeral c = true) {d : Char} (hd : isNumeral d = false) :
    d ∉ cs := by
  intro hmem
  rw [h d hmem] at hd
  cases hd

theorem signed_inj {a b : Bool} {ds es : List Char} (hds : IsDigits ds) (hes : IsDigits es)
    (h : signed a ds = signed b es) : a = b ∧ ds = es := by
  have hsign : ∀ cs xs : List Char, IsDigits cs → cs ≠ '-' :: xs := by
    rintro cs xs hcs rfl
    exact absurd (hcs.2 '-' (by simp)) (by decide)
  cases a <;> cases b
  · exact ⟨rfl, h⟩
  · exact absurd h (hsign _ _ hds)
  · exact absurd h.symm (hsign _ _ hes)
  · exact ⟨rfl, (List.cons.inj h).2⟩

theorem intText_inj {m n : Int} (h : (toString m).toList = (toString n).toList) : m = n := by
  rw [toList_intText, toList_intText] at h
  obtain ⟨hsign, hdigits⟩ := signed_inj (isDigits_toDigits _) (isDigits_toDigits _) h
  have hsize := congrArg digitsOf hdigits
  rw [digitsOf_toDigits, digitsOf_toDigits] at hsize
  rw [decide_eq_decide] at hsign
  omega

end FunctionMetrics
