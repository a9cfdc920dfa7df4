import FunctionMetrics.Proofs.Json.Grammar
import FunctionMetrics.Proofs.Text.Utf8
import Mathlib.Data.List.TakeDrop

/-!
# Strings and numbers that are read

A string and a number of the grammar are read as what they spell, up to where they end. A whole number is read only if
it is short enough.
-/

namespace FunctionMetrics

namespace Text

/-! ## Characters by number -/

theorem hexValue?_lt {c : Char} {v : Nat} (h : hexValue? c = some v) : v < 16 := by
  unfold hexValue? at h
  simp only [Char.le_def, UInt32.le_iff_toNat_le] at h
  change (if 48 ≤ c.toNat ∧ c.toNat ≤ 57 then some (c.toNat - 48)
    else if 97 ≤ c.toNat ∧ c.toNat ≤ 102 then some (c.toNat - 97 + 10)
    else if 65 ≤ c.toNat ∧ c.toNat ≤ 70 then some (c.toNat - 65 + 10) else none) = some v at h
  split at h
  · cases h; omega
  · split at h
    · cases h; omega
    · split at h
      · cases h; omega
      · cases h

theorem isHalf_eq_false_iff {n : Nat} : isHalf n = false ↔ n < 0xD800 ∨ 0xDFFF < n := by
  simp only [isHalf, decide_eq_false_iff_not]
  omega

theorem isHighHalf_of_not_isHalf {n : Nat} (h : isHalf n = false) : isHighHalf n = false := by
  rw [isHalf_eq_false_iff] at h
  simp only [isHighHalf, decide_eq_false_iff_not]
  omega

@[simp] theorem Codes.ofChars_cons (c : Char) (cs : List Char) : Codes.ofChars (c :: cs) = c.toNat :: Codes.ofChars cs := rfl

theorem isHalf_toNat (c : Char) : isHalf c.toNat = false := by
  rw [isHalf_eq_false_iff]
  have hvalid : c.toNat < 0xD800 ∨ 0xDFFF < c.toNat ∧ c.toNat < 0x110000 := c.valid
  omega

theorem charOf_toNat (c : Char) : charOf c.toNat = c := by
  rw [charOf, if_neg (by simp [isHalf_toNat]), Char.ofNat_toNat]

theorem isValidChar_joinHalves {high low : Nat} (h : isHighHalf high = true ∧ isLowHalf low = true) :
    (joinHalves high low).isValidChar := by
  simp only [isHighHalf, isLowHalf, decide_eq_true_eq] at h
  unfold joinHalves Nat.isValidChar
  omega

end Text

namespace Json

open Text

theorem hexUnit?_lt {a b c d : Char} {n : Nat} (h : hexUnit? a b c d = some n) : n < 0x10000 := by
  unfold hexUnit? at h
  cases ha : hexValue? a <;> cases hb : hexValue? b <;> cases hc : hexValue? c <;> cases hd : hexValue? d <;>
    simp [ha, hb, hc, hd] at h
  have := hexValue?_lt ha
  have := hexValue?_lt hb
  have := hexValue?_lt hc
  have := hexValue?_lt hd
  simp [ofDigits] at h
  omega

/-! ## Strings -/

section

variable (start : List Char) {tail : List Char}

theorem readString_plain {c : Char} (hc : ' ' ≤ c ∧ c ≠ '\"' ∧ c ≠ '\\') :
    readString start (c :: tail) = (readString start tail).map fun (s, r) => (c.toNat :: s, r) := by
  obtain ⟨hblank, hquote, hslash⟩ := hc
  rw [readString, if_neg (Char.not_lt.mpr hblank)] <;> simp [hquote, hslash]

theorem readString_short {letter c : Char} (hc : shortEscape? letter = some c) :
    readString start ('\\' :: letter :: tail) = (readString start tail).map fun (s, r) => (c.toNat :: s, r) := by
  have hletter : letter ≠ 'u' := by
    rintro rfl
    cases hc
  rw [readString, hc] <;> simp [hletter]

theorem readString_unit {a b c d : Char} {n : Nat} (hn : hexUnit? a b c d = some n) (hhalf : isHalf n = false)
    (htail : tail ≠ []) :
    readString start ('\\' :: 'u' :: a :: b :: c :: d :: tail) =
      (readString start tail).map fun (s, r) => (n :: s, r) := by
  have hhigh := isHighHalf_of_not_isHalf hhalf
  obtain ⟨next, rest, rfl⟩ := List.exists_cons_of_ne_nil htail
  by_cases hlong : ∃ e f g h next' rest', next = '\\' ∧ rest = 'u' :: e :: f :: g :: h :: next' :: rest'
  · -- The text goes on as the other half of a pair would.
    obtain ⟨e, f, g, h, next', rest', rfl, rfl⟩ := hlong
    rw [readString, hn]
    simp [hhigh]
  · rw [readString, hn]
    rintro e f g h next' rest' rfl rfl
    exact hlong ⟨e, f, g, h, next', rest', rfl, rfl⟩

theorem readString_pair {d₁ d₂ d₃ d₄ e₁ e₂ e₃ e₄ : Char} {high low : Nat} (hhigh : hexUnit? d₁ d₂ d₃ d₄ = some high)
    (hlow : hexUnit? e₁ e₂ e₃ e₄ = some low) (hpair : isHighHalf high = true ∧ isLowHalf low = true) (htail : tail ≠ []) :
    readString start ('\\' :: 'u' :: d₁ :: d₂ :: d₃ :: d₄ :: '\\' :: 'u' :: e₁ :: e₂ :: e₃ :: e₄ :: tail) =
      (readString start tail).map fun (s, r) => (joinHalves high low :: s, r) := by
  obtain ⟨next, rest, rfl⟩ := List.exists_cons_of_ne_nil htail
  simp only [readString, hhigh, hlow, hpair.1, hpair.2, if_true]

theorem readString_of_spells {cs out : List Char} (h : SpellsChars cs out) (rest : List Char) :
    readString start (cs ++ '\"' :: rest) = .ok (Codes.ofChars out, rest) := by
  induction h with
  | nil => rfl
  | plain hc h ih => rw [List.cons_append, readString_plain start hc, ih]; rfl
  | short hc h ih => rw [List.cons_append, List.cons_append, readString_short start hc, ih]; rfl
  | @unit _ _ _ _ n _ _ hn hhalf h ih =>
    have hvalid : n.isValidChar := by
      have hlt := hexUnit?_lt hn
      rw [isHalf_eq_false_iff] at hhalf
      unfold Nat.isValidChar
      omega
    simp only [List.cons_append]
    rw [readString_unit start hn hhalf (by simp), ih, Codes.ofChars_cons, Utf8.toNat_charOfNat hvalid]
    rfl
  | pair hhigh hlow hpair h ih =>
    simp only [List.cons_append]
    rw [readString_pair start hhigh hlow hpair (by simp), ih, Codes.ofChars_cons,
      Utf8.toNat_charOfNat (isValidChar_joinHalves hpair)]
    rfl

end

theorem ofCodes_ofChars (cs : List Char) : Value.ofCodes (Codes.ofChars cs) = .text (String.ofList cs) := by
  have hbroken : (Codes.ofChars cs).isBroken = false := by
    simp [Codes.isBroken, Codes.ofChars, isHalf_toNat]
  have hchars : (Codes.ofChars cs).chars = cs := by
    simp [Codes.chars, Codes.ofChars, Function.comp_def, charOf_toNat]
  rw [Value.ofCodes, if_neg (by simp [hbroken]), Codes.shown, hchars]

/-! ## Numbers -/

def EndsDigits (rest : List Char) : Prop := ∀ c ∈ rest.head?, isAsciiDigit c = false

theorem ne_of_isAsciiDigit {c d : Char} (hc : isAsciiDigit c = false) (hd : isAsciiDigit d = true) : c ≠ d := by
  rintro rfl
  rw [hd] at hc
  cases hc

theorem endsDigits_cons {c : Char} (h : isAsciiDigit c = false) (rest : List Char) : EndsDigits (c :: rest) := by
  intro d hd
  obtain rfl : c = d := by simpa using hd
  exact h

/-- A text behind a value: it ends, or it goes on with a blank, a comma or a closing bracket. -/
def Stops (rest : List Char) : Prop := ∀ c ∈ rest.head?, isSpace c = true ∨ c = ',' ∨ c = ']' ∨ c = '\x7d'

theorem Stops.ne {rest : List Char} (h : Stops rest) :
    ∀ c ∈ rest.head?, isAsciiDigit c = false ∧ c ≠ '.' ∧ c ≠ 'e' ∧ c ≠ 'E' := by
  intro c hc
  have hc := h c hc
  simp only [isSpace, decide_eq_true_eq] at hc
  rcases hc with (rfl | rfl | rfl | rfl) | rfl | rfl | rfl <;> decide

theorem Stops.endsDigits {rest : List Char} (h : Stops rest) : EndsDigits rest := fun c hc => (h.ne c hc).1

theorem spanDigits_append {ds rest : List Char} (hds : ∀ c ∈ ds, isAsciiDigit c = true) (hrest : EndsDigits rest) :
    spanDigits (ds ++ rest) = (ds, rest) := by
  rw [spanDigits, List.span_eq_takeWhile_dropWhile, List.takeWhile_append_of_pos hds, List.dropWhile_append_of_pos hds]
  cases rest with
  | nil => simp
  | cons c rest => simp [hrest c (by simp)]

theorem readFraction_of_spells {behind fs rest : List Char} (h : SpellsFraction behind fs) (hrest : EndsDigits rest)
    (hpoint : ∀ c ∈ rest.head?, c ≠ '.') : readFraction (behind ++ rest) = (fs, rest) := by
  cases h with
  | none =>
    cases rest with
    | nil => rfl
    | cons c rest =>
      have hc := hpoint c (by simp)
      rw [List.nil_append, readFraction]
      simpa using hc
  | some h =>
    rw [List.cons_append, readFraction, spanDigits_append h.2 hrest, if_neg h.1]

theorem readExponent_of_spells {es rest : List Char} {e : Option Int} (h : SpellsExponent es e) (hrest : Stops rest) :
    readExponent (es ++ rest) = (e, rest) := by
  have hend := hrest.endsDigits
  cases h with
  | none =>
    cases rest with
    | nil => rfl
    | cons c rest =>
      have hc := hrest.ne c (by simp)
      unfold readExponent
      simp [hc]
  | @plain e ds he h =>
    have hspan := spanDigits_append h.2 hend
    obtain ⟨d, ds, rfl⟩ := List.exists_cons_of_ne_nil h.1
    have hd := h.2 d (by simp)
    have hplus : '+' ≠ d := ne_of_isAsciiDigit rfl hd
    have hminus : '-' ≠ d := ne_of_isAsciiDigit rfl hd
    rw [List.cons_append] at hspan
    unfold readExponent
    simp [he, hplus.symm, hminus.symm, hspan]
  | plus he h =>
    unfold readExponent
    simp [he, spanDigits_append h.2 hend, h.1]
  | minus he h =>
    unfold readExponent
    simp [he, spanDigits_append h.2 hend, h.1]

theorem whole_of_isWhole {ds rest : List Char} (h : IsWhole ds) (hrest : EndsDigits rest) :
    (match ds ++ rest with
      | '0' :: rest => (['0'], rest)
      | _ => spanDigits (ds ++ rest)) = (ds, rest) := by
  have hspan := spanDigits_append h.1.2 hrest
  obtain ⟨d, ds, rfl⟩ := List.exists_cons_of_ne_nil h.1.1
  by_cases hd : d = '0'
  · obtain rfl : ds = [] := by simpa [hd] using h.2
    rw [hd]
    rfl
  · rw [List.cons_append] at hspan ⊢
    simp [hd, hspan]

section

variable {ds rest : List Char} (h : IsWhole ds) (hrest : Stops rest) (negative : Bool) (start : List Char)

include h hrest

theorem readSize_whole (hfits : ds.length ≤ Number.maxDigits) :
    readSize negative start (ds ++ rest) =
      .ok (.int (if negative then -(digitsOf ds : Int) else digitsOf ds), rest) := by
  have hpoint : ∀ c ∈ rest.head?, c ≠ '.' := fun c hc => (hrest.ne c hc).2.1
  have hfraction := readFraction_of_spells .none hrest.endsDigits hpoint
  have hexponent := readExponent_of_spells .none hrest
  rw [List.nil_append] at hfraction hexponent
  unfold readSize
  extract_lets whole fraction exponent
  have hwhole : whole = (ds, rest) := whole_of_isWhole h hrest.endsDigits
  have hnone : fraction = ([], rest) := by simp only [fraction, hwhole, hfraction]
  have hnone' : exponent = (none, rest) := by simp only [exponent, hnone, hexponent]
  simp [hwhole, hnone, hnone', h.1.1, Nat.not_lt.mpr hfits]

theorem readSize_decimal {fs behind es : List Char} {e : Option Int} (hfraction : SpellsFraction behind fs)
    (hexponent : SpellsExponent es e) (hsome : fs ≠ [] ∨ e ≠ none) :
    readSize negative start (ds ++ behind ++ es ++ rest) =
      .ok (.float (.ofDecimal negative (digitsOf (ds ++ fs)) (e.getD 0 - fs.length)), rest) := by
  have hletter : ∀ c ∈ (es ++ rest).head?, isAsciiDigit c = false ∧ c ≠ '.' := by
    cases hexponent with
    | none => exact fun c hc => ⟨(hrest.ne c hc).1, (hrest.ne c hc).2.1⟩
    | plain he | plus he | minus he =>
      rcases he with rfl | rfl <;> simp [isAsciiDigit]
  have hend : EndsDigits (behind ++ (es ++ rest)) := by
    cases hfraction with
    | none => exact fun c hc => (hletter c hc).1
    | some => exact endsDigits_cons (by decide) _
  have hbehind := readFraction_of_spells hfraction (fun c hc => (hletter c hc).1) fun c hc => (hletter c hc).2
  simp only [List.append_assoc]
  unfold readSize
  extract_lets whole fraction exponent
  have hwhole : whole = (ds, behind ++ (es ++ rest)) := whole_of_isWhole h hend
  have hread : fraction = (fs, es ++ rest) := by simp only [fraction, hwhole, hbehind]
  have hread' : exponent = (e, rest) := by
    simp only [exponent, hread, readExponent_of_spells hexponent hrest]
  have hnot : ¬ (fs = [] ∧ e = none) := fun hnone => hsome.elim (· hnone.1) (· hnone.2)
  simp [hwhole, hread, hread', h.1.1, hnot]

end

/-! ## Words and numbers -/

theorem word?_cons (c d : Char) (w s : List Char) : word? (c :: w) (d :: s) = if c = d then word? w s else none := by
  by_cases h : c = d <;> simp [word?, h]

theorem findSome?_words_of_digit {d : Char} (hd : isAsciiDigit d = true) (negative : Bool) (tail : List Char) :
    (words.findSome? fun (w, v) => (word? w.toList (signed negative (d :: tail))).map (v, ·)) = none := by
  have hne : ∀ c, isAsciiDigit c = false → c ≠ d := fun c hc => ne_of_isAsciiDigit hc hd
  rw [List.findSome?_eq_none_iff]
  intro p hp
  rw [Option.map_eq_none_iff]
  simp only [words, List.mem_cons, List.not_mem_nil, or_false] at hp
  cases negative with
  | false =>
    simp only [signed, Bool.false_eq_true, if_false]
    rcases hp with rfl | rfl | rfl | rfl | rfl | rfl
    · exact (word?_cons 'n' d _ _).trans (if_neg (hne 'n' rfl))
    · exact (word?_cons 't' d _ _).trans (if_neg (hne 't' rfl))
    · exact (word?_cons 'f' d _ _).trans (if_neg (hne 'f' rfl))
    · exact (word?_cons 'N' d _ _).trans (if_neg (hne 'N' rfl))
    · exact (word?_cons 'I' d _ _).trans (if_neg (hne 'I' rfl))
    · exact (word?_cons '-' d _ _).trans (if_neg (hne '-' rfl))
  | true =>
    simp only [signed, if_true]
    rcases hp with rfl | rfl | rfl | rfl | rfl | rfl
    iterate 5 rfl
    exact (word?_cons 'I' d _ _).trans (if_neg (hne 'I' rfl))

theorem readScalar_signed {d : Char} (hd : isAsciiDigit d = true) (negative : Bool) (tail : List Char) :
    readScalar (signed negative (d :: tail)) =
      (readSize negative (signed negative (d :: tail)) (d :: tail)).map fun (n, r) => (.number n, r) := by
  unfold readScalar
  rw [findSome?_words_of_digit hd]
  cases negative with
  | true => rfl
  | false =>
    have hminus : '-' ≠ d := ne_of_isAsciiDigit rfl hd
    simp [signed, hminus.symm]

theorem signed_append (negative : Bool) (cs rest : List Char) :
    signed negative cs ++ rest = signed negative (cs ++ rest) := by
  cases negative <;> rfl

theorem readScalar_of_spells {cs rest : List Char} {n : Number} (h : SpellsNumber (· ≤ Number.maxDigits) cs n)
    (hrest : Stops rest) : readScalar (cs ++ rest) = .ok (.number n, rest) := by
  cases h with
  | @whole negative ds h hfits =>
    have hread := readSize_whole h hrest negative (signed negative (ds ++ rest)) hfits
    obtain ⟨d, ds, rfl⟩ := List.exists_cons_of_ne_nil h.1.1
    rw [signed_append, List.cons_append, readScalar_signed (h.1.2 d (by simp))]
    rw [List.cons_append] at hread
    rw [hread]
    rfl
  | @decimal negative ds fs behind es e h hfraction hexponent hsome =>
    have hread := readSize_decimal h hrest negative (signed negative (ds ++ behind ++ es ++ rest)) hfraction hexponent hsome
    obtain ⟨d, ds, rfl⟩ := List.exists_cons_of_ne_nil h.1.1
    simp only [signed_append, List.cons_append] at hread ⊢
    rw [readScalar_signed (h.1.2 d (by simp)), hread]
    rfl

theorem readScalar_null (rest : List Char) : readScalar ("null".toList ++ rest) = .ok (.null, rest) := by
  simp [readScalar, words, word?]

theorem readScalar_bool (b : Bool) (rest : List Char) :
    readScalar ((if b then "true" else "false").toList ++ rest) = .ok (.bool b, rest) := by
  cases b <;> simp [readScalar, words, word?]

end Json

end FunctionMetrics
