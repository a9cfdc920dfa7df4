import FunctionMetrics.Number.Typed
import FunctionMetrics.Proofs.Number.Numeral
import FunctionMetrics.Proofs.Text.Case

/-!
# Numbers that are typed as they are written

A number as it is written has no blanks, no underscores and no digits of other scripts, so nothing of it is changed
before it is read. Typed in again, the text of a floating point number gives that number.
-/

namespace FunctionMetrics.Typed

open Json Text

/-! ## Characters that stay -/

theorem toNat_of_isAsciiDigit {c : Char} (h : isAsciiDigit c = true) : 48 ≤ c.toNat ∧ c.toNat ≤ 57 := by
  have hrange : '0' ≤ c ∧ c ≤ '9' := of_decide_eq_true h
  simp only [Char.le_def, UInt32.le_iff_toNat_le] at hrange
  exact hrange

theorem toNat_of_isNumeral {c : Char} (h : isNumeral c = true) : 43 ≤ c.toNat ∧ c.toNat ≠ 95 ∧ c.toNat < 127 := by
  rw [isNumeral, Bool.or_eq_true] at h
  rcases h with hdigit | hmark
  · have := toNat_of_isAsciiDigit hdigit
    omega
  · simp only [List.contains_eq_mem, List.mem_cons, List.not_mem_nil, or_false, decide_eq_true_eq] at hmark
    rcases hmark with rfl | rfl | rfl | rfl | rfl <;> decide

theorem toLower_of_isAsciiDigit {c : Char} (h : isAsciiDigit c = true) : c.toLower = c := by
  have hrange := toNat_of_isAsciiDigit h
  apply Char.toNat_inj.mp
  rw [toNat_toLower, lowerAscii, if_neg (by omega)]

theorem plainDigit_of_lt {c : Char} (h : c.toNat < 128) : plainDigit c = c := by
  unfold plainDigit digitValue?
  split
  case h_1 d hd =>
    split at hd
    case isTrue hdigit =>
      obtain ⟨hlow, hhigh⟩ := toNat_of_isAsciiDigit (c := c) (decide_eq_true hdigit)
      obtain rfl := Option.some.inj hd
      apply Char.toNat_inj.mp
      rw [Nat.toNat_digitChar_of_lt_ten (by change c.toNat - 48 < 10; omega)]
      change 48 + (c.toNat - 48) = c.toNat
      omega
    case isFalse => cases hd
  case h_2 => rfl

theorem isPadding_of_isNumeral {c : Char} (h : isNumeral c = true) : isPadding c = false := by
  obtain ⟨hlow, -, hhigh⟩ := toNat_of_isNumeral h
  have hblank : c ≠ ' ' := by
    rintro rfl
    revert hlow
    decide
  simp [isPadding, wideBlanks, hblank]
  omega

theorem trim_eq_self {cs : List Char} (h : ∀ c ∈ cs, isPadding c = false) : trim cs = cs := by
  have hkeep : ∀ ds : List Char, (∀ c ∈ ds, isPadding c = false) → ds.dropWhile isPadding = ds := by
    intro ds hds
    cases ds with
    | nil => rfl
    | cons c ds => rw [List.dropWhile_cons_of_neg (by simp [hds c (by simp)])]
  rw [trim, hkeep cs h, hkeep cs.reverse (by simpa using h), List.reverse_reverse]

theorem joinDigits?_eq_some {cs : List Char} (h : '_' ∉ cs) (before : Option Char) : joinDigits? before cs = some cs := by
  induction cs generalizing before with
  | nil => rfl
  | cons c rest ih =>
    have hc : c ≠ '_' := by
      rintro rfl
      exact h (by simp)
    have hrest : '_' ∉ rest := fun hmem => h (by simp [hmem])
    rw [joinDigits?.eq_4 _ _ _ (by simp [hc]) (by simp [hc]), ih hrest]
    rfl

/-! ## Decimals -/

theorem splitSign_signed {d : Char} (hd : isAsciiDigit d = true) (negative : Bool) (tail : List Char) :
    splitSign (signed negative (d :: tail)) = (negative, d :: tail) := by
  have hminus : '-' ≠ d := ne_of_isAsciiDigit rfl hd
  have hplus : '+' ≠ d := ne_of_isAsciiDigit rfl hd
  cases negative with
  | true => rfl
  | false => simp [signed, splitSign, hminus.symm, hplus.symm]

theorem span_append {ds rest : List Char} (hds : ∀ c ∈ ds, isAsciiDigit c = true) (hrest : EndsDigits rest) :
    (ds ++ rest).span isAsciiDigit = (ds, rest) := spanDigits_append hds hrest

theorem exponent?_of_spells {es : List Char} {e : Option Int} (h : SpellsExponent es e) :
    exponent? es = some (e.getD 0) := by
  cases h with
  | none => rfl
  | @plain mark ds hmark hds =>
    obtain ⟨d, tail, rfl⟩ := List.exists_cons_of_ne_nil hds.1
    have hsplit := splitSign_signed (hds.2 d (by simp)) false tail
    have hall : (d :: tail).all isAsciiDigit = true := List.all_eq_true.mpr hds.2
    change splitSign (d :: tail) = _ at hsplit
    simp only [exponent?, hsplit]
    rw [if_pos ⟨hmark, hds.1, hall⟩]
    rfl
  | @plus mark ds hmark hds =>
    have hall : ds.all isAsciiDigit = true := List.all_eq_true.mpr hds.2
    simp only [exponent?, splitSign]
    rw [if_pos ⟨hmark, hds.1, hall⟩]
    rfl
  | @minus mark ds hmark hds =>
    have hall : ds.all isAsciiDigit = true := List.all_eq_true.mpr hds.2
    simp only [exponent?, splitSign]
    rw [if_pos ⟨hmark, hds.1, hall⟩]
    rfl

section

variable {ds behind fs es : List Char} {e : Option Int} (hds : IsDigits ds) (hbehind : SpellsFraction behind fs)
  (hes : SpellsExponent es e) (negative : Bool)

include hds hbehind hes

theorem decimal?_of_spells :
    decimal? negative (ds ++ behind ++ es) = some (.ofDecimal negative (digitsOf (ds ++ fs)) (e.getD 0 - fs.length)) := by
  have hmark : ∀ c ∈ es.head?, isAsciiDigit c = false ∧ c ≠ '.' := by
    cases hes with
    | none => simp
    | plain h | plus h | minus h => rcases h with rfl | rfl <;> simp [isAsciiDigit]
  have hends : EndsDigits es := fun c hc => (hmark c hc).1
  have hexponent := exponent?_of_spells hes
  cases hbehind with
  | none =>
    have hspan := span_append hds.2 hends
    unfold decimal?
    rw [List.append_nil, hspan]
    dsimp only
    split
    case h_1 => exact absurd rfl (hmark '.' (by simp)).2
    case h_2 =>
      rw [if_neg (by simp [hds.1]), hexponent, List.append_nil]
      rfl
  | some hfs =>
    have hspan := span_append hds.2 (endsDigits_cons (c := '.') rfl (fs ++ es))
    have hspan' := span_append hfs.2 hends
    unfold decimal?
    rw [List.append_assoc, List.cons_append, hspan]
    simp only [hspan', hds.1, false_and, if_false, hexponent, Option.map_some]
    rfl

theorem float?_of_spells {text : String} (h : text.toList = signed negative (ds ++ behind ++ es)) :
    float? text = some (.ofDecimal negative (digitsOf (ds ++ fs)) (e.getD 0 - fs.length)) := by
  have hnumeral : ∀ c ∈ text.toList, isNumeral c = true := h ▸ isNumeral_decimal hds hbehind hes
  have hplain : text.toList.map plainDigit = text.toList.map id :=
    List.map_congr_left fun c hc => plainDigit_of_lt (Nat.lt_succ_of_lt (toNat_of_isNumeral (hnumeral c hc)).2.2)
  have htrim : trim text.toList = text.toList := trim_eq_self fun c hc => isPadding_of_isNumeral (hnumeral c hc)
  have hjoin := joinDigits?_eq_some (not_mem_of_isNumeral hnumeral (d := '_') rfl) none
  have hdecimal := decimal?_of_spells hds hbehind hes negative
  obtain ⟨d, tail, hcons⟩ := List.exists_cons_of_ne_nil (show ds ++ behind ++ es ≠ [] by simp [hds.1])
  have hd : isAsciiDigit d = true := by
    obtain ⟨d', ds', rfl⟩ := List.exists_cons_of_ne_nil hds.1
    obtain rfl := (List.cons.inj hcons).1
    exact hds.2 d' (by simp)
  rw [hcons] at h hdecimal
  -- A word begins with a letter.
  have hword : ∀ word : String, (∀ c ∈ word.toList.head?, isAsciiDigit c = false) →
      String.ofList ((d :: tail).map Char.toLower) ≠ word := by
    rintro word hword rfl
    have hfirst := hword d (by simp [toLower_of_isAsciiDigit hd])
    rw [hd] at hfirst
    cases hfirst
  have hinf := hword "inf" (by simp [isAsciiDigit])
  have hinfinity := hword "infinity" (by simp [isAsciiDigit])
  have hnan := hword "nan" (by simp [isAsciiDigit])
  unfold float?
  rw [hplain, List.map_id, htrim, hjoin, h]
  simp only [Option.bind_eq_bind, Option.bind_some, splitSign_signed hd, hinf, hinfinity, hnan, or_self, if_false]
  exact hdecimal

end

/-- The text of a floating point number is read as that number. -/
theorem float?_text (x : Binary64) : float? x.text = some x := by
  cases x with
  | nan => decide +kernel
  | infinity negative => cases negative <;> decide +kernel
  | finite negative m =>
    have hspells := @spellsNumber_text (fun _ => True) (.finite negative m) rfl
    generalize Binary64.finite negative m = x at *
    generalize htext : x.text.toList = cs at hspells
    generalize hnumber : Number.float x = n at hspells
    cases hspells with
    | whole => cases hnumber
    | decimal hds hbehind hes =>
      rw [float?_of_spells hds.1 hbehind hes _ htext, Number.float.inj hnumber]

end FunctionMetrics.Typed
