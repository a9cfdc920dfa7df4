import FunctionMetrics.Proofs.Json.Scalars
import FunctionMetrics.Proofs.Number.Shortest

/-!
# Numbers as they are written

The text of a number is a number of the grammar, and spells it. A floating point one is written with its shortest
digits, which read back, and neither the point nor the power of ten changes their value.
-/

namespace FunctionMetrics

open Text

namespace Json

/-! ## Digits -/

theorem isAsciiDigit_of_isDigit {c : Char} (h : c.isDigit = true) : isAsciiDigit c = true := by
  simp only [Char.isDigit, Bool.and_eq_true, decide_eq_true_eq] at h
  exact decide_eq_true h

theorem digitsOf_eq (cs : List Char) : digitsOf cs = Nat.ofDigitChars 10 cs 0 := by
  rw [digitsOf, ofDigits, List.foldl_map, Nat.ofDigitChars]
  simp only [Nat.mul_comm]

theorem foldl_digits (cs : List Char) (n : Nat) :
    Nat.ofDigitChars 10 cs n = n * 10 ^ cs.length + Nat.ofDigitChars 10 cs 0 := by
  induction cs generalizing n with
  | nil => simp [Nat.ofDigitChars]
  | cons c cs ih =>
    have hcons : ∀ k, Nat.ofDigitChars 10 (c :: cs) k = Nat.ofDigitChars 10 cs (10 * k + (c.toNat - '0'.toNat)) :=
      fun k => rfl
    rw [hcons, hcons, ih, ih (10 * 0 + _), List.length_cons, Nat.pow_succ]
    ring

theorem digitsOf_append (a b : List Char) : digitsOf (a ++ b) = digitsOf a * 10 ^ b.length + digitsOf b := by
  rw [digitsOf_eq, digitsOf_eq, digitsOf_eq, ← foldl_digits]
  exact List.foldl_append

@[simp] theorem digitsOf_zeros (k : Nat) : digitsOf (List.replicate k '0') = 0 := by
  induction k with
  | zero => rfl
  | succ k ih =>
    rw [List.replicate_succ', digitsOf_append, ih]
    rfl

@[simp] theorem digitsOf_toDigits (n : Nat) : digitsOf (Nat.toDigits 10 n) = n := by
  rw [digitsOf_eq]
  exact Nat.ofDigitChars_ten_toDigits

theorem isAsciiDigit_toDigits {n : Nat} : ∀ c ∈ Nat.toDigits 10 n, isAsciiDigit c = true := fun _ hc =>
  isAsciiDigit_of_isDigit (Nat.isDigit_of_mem_toDigits (by decide) (by decide) hc)

theorem isDigits_toDigits (n : Nat) : IsDigits (Nat.toDigits 10 n) :=
  ⟨List.ne_nil_of_length_pos Nat.length_toDigits_pos, isAsciiDigit_toDigits⟩

theorem isAsciiDigit_zeros {n : Nat} : ∀ c ∈ List.replicate n '0', isAsciiDigit c = true := by
  intro c hc
  rw [List.eq_of_mem_replicate hc]
  rfl

section

variable {ds more : List Char} (h : IsDigits ds)

include h

theorem IsDigits.append (hmore : ∀ c ∈ more, isAsciiDigit c = true) : IsDigits (ds ++ more) :=
  ⟨by simp [h.1], List.forall_mem_append.mpr ⟨h.2, hmore⟩⟩

theorem IsDigits.zeros_append (n : Nat) : IsDigits (List.replicate n '0' ++ ds) :=
  ⟨by simp [h.1], List.forall_mem_append.mpr ⟨isAsciiDigit_zeros, h.2⟩⟩

theorem IsDigits.take {n : Nat} (hn : n ≠ 0) : IsDigits (ds.take n) :=
  ⟨by simp [h.1, hn], fun c hc => h.2 c (List.mem_of_mem_take hc)⟩

theorem IsDigits.forall_drop (n : Nat) : ∀ c ∈ ds.drop n, isAsciiDigit c = true :=
  fun c hc => h.2 c (List.mem_of_mem_drop hc)

end

theorem digitChar_ne_zero {n : Nat} (h : n ≠ 0) (hlt : n < 10) : n.digitChar ≠ '0' := by
  intro heq
  have hvalue := Nat.toNat_digitChar_of_lt_ten hlt
  rw [heq] at hvalue
  simp at hvalue
  omega

theorem head?_toDigits {n : Nat} (h : n ≠ 0) : (Nat.toDigits 10 n).head? ≠ some '0' := by
  induction n using Nat.strong_induction_on with
  | _ n ih =>
    by_cases hsmall : n < 10
    · rw [Nat.toDigits_of_lt_base hsmall]
      simpa using digitChar_ne_zero h hsmall
    · rw [Nat.toDigits_of_base_le (by decide) (by omega)]
      have hne := (isDigits_toDigits (n / 10)).1
      rw [List.head?_append_of_ne_nil _ hne]
      exact ih (n / 10) (by omega) (by omega)

theorem isWhole_toDigits (n : Nat) : IsWhole (Nat.toDigits 10 n) := by
  refine ⟨isDigits_toDigits n, fun hzero => ?_⟩
  by_cases h : n = 0
  · rw [h]; rfl
  · exact absurd hzero (head?_toDigits h)

/-! ## Whole numbers -/

theorem toList_intText (n : Int) : (toString n).toList = signed (decide (n < 0)) (Nat.toDigits 10 n.natAbs) := by
  cases n with
  | ofNat n =>
    change (toString n).toList = _
    rw [Nat.toString_eq_ofList_toDigits, String.toList_ofList]
    rfl
  | negSucc n =>
    change ("-" ++ toString (n + 1)).toList = _
    rw [decide_eq_true (Int.negSucc_lt_zero n), Nat.toString_eq_ofList_toDigits, String.toList_append]
    simp only [String.toList_ofList]
    rfl

theorem spellsNumber_int {fits : Nat → Prop} {n : Int} (hfits : fits (Nat.toDigits 10 n.natAbs).length) :
    SpellsNumber fits (toString n).toList (.int n) := by
  have h : SpellsNumber fits (signed (decide (n < 0)) (Nat.toDigits 10 n.natAbs)) _ := .whole (isWhole_toDigits _) hfits
  have hvalue : (if decide (n < 0) then -(n.natAbs : Int) else n.natAbs) = n := by
    simp only [decide_eq_true_eq]
    split <;> omega
  rwa [digitsOf_toDigits, hvalue, ← toList_intText] at h

/-! ## The digits of a significand -/

theorem toDigits_mul_ten {n : Nat} (h : n ≠ 0) : Nat.toDigits 10 (n * 10) = Nat.toDigits 10 n ++ ['0'] := by
  rw [Nat.toDigits_of_base_le (by decide) (by omega), Nat.mul_div_cancel _ (by decide), Nat.mul_mod_left]
  rfl

theorem exists_toDigits_concat {n : Nat} (h : n % 10 ≠ 0) : ∃ cs c, Nat.toDigits 10 n = cs ++ [c] ∧ c ≠ '0' := by
  by_cases hsmall : n < 10
  · exact ⟨[], _, Nat.toDigits_of_lt_base hsmall, digitChar_ne_zero (by omega) hsmall⟩
  · exact ⟨_, _, Nat.toDigits_of_base_le (by decide) (by omega), digitChar_ne_zero h (by omega)⟩

theorem digitText_mul_ten {d : Nat} (h : d ≠ 0) : Layout.digitText (d * 10) = Layout.digitText d := by
  unfold Layout.digitText
  rw [toDigits_mul_ten h]
  simp

theorem toList_digitText {n : Nat} (h : n % 10 ≠ 0) : (Layout.digitText n).toList = Nat.toDigits 10 n := by
  obtain ⟨cs, c, hdigits, hc⟩ := exists_toDigits_concat h
  unfold Layout.digitText
  rw [hdigits]
  simp [hc]

theorem toList_digitText_mul_pow {n : Nat} (h : n % 10 ≠ 0) (j : Nat) :
    (Layout.digitText (n * 10 ^ j)).toList = Nat.toDigits 10 n := by
  induction j with
  | zero => rw [Nat.pow_zero, Nat.mul_one, toList_digitText h]
  | succ j ih =>
    have hne : n * 10 ^ j ≠ 0 := Nat.mul_ne_zero (by omega) (Nat.pow_pos (by decide)).ne'
    rw [Nat.pow_succ, ← Nat.mul_assoc, digitText_mul_ten hne, ih]

theorem exists_digitText {d : Nat} (h : d ≠ 0) :
    ∃ n j, d = n * 10 ^ j ∧ n ≠ 0 ∧ (Layout.digitText d).toList = Nat.toDigits 10 n := by
  induction d using Nat.strong_induction_on with
  | _ d ih =>
    by_cases hlast : d % 10 = 0
    · obtain ⟨q, rfl⟩ : ∃ q, d = q * 10 := ⟨d / 10, by omega⟩
      obtain ⟨n, j, hq, hn, htext⟩ := ih q (by omega) (by omega)
      refine ⟨n, j + 1, ?_, hn, ?_⟩
      · rw [Nat.pow_succ, ← Nat.mul_assoc, ← hq]
      · rw [digitText_mul_ten (by omega), htext]
    · exact ⟨d, 0, by simp, h, toList_digitText hlast⟩

/-! ## Layouts -/

theorem toList_take (s : String) (n : Nat) : (s.take n).toString.toList = s.toList.take n := String.toList_copy_take

theorem toList_drop (s : String) (n : Nat) : (s.drop n).toString.toList = s.toList.drop n := String.toList_copy_drop

theorem toList_zeros (n : Nat) : (Layout.zeros n).toList = List.replicate n '0' := String.toList_ofList

theorem exists_withPoint (whole fraction : String) (h : ∀ c ∈ fraction.toList, isAsciiDigit c = true) :
    ∃ behind, (Layout.withPoint whole fraction).toList = whole.toList ++ behind ∧
      SpellsFraction behind fraction.toList := by
  unfold Layout.withPoint
  split
  case isTrue hempty => exact ⟨[], by simp, by rw [hempty]; exact .none⟩
  case isFalse hempty =>
    refine ⟨'.' :: fraction.toList, by simp, .some ⟨?_, h⟩⟩
    rwa [Ne, String.toList_eq_nil_iff]

theorem spellsExponent_exponentText (e : Int) : SpellsExponent (Layout.exponentText e).toList (some e) := by
  have hdigits : IsDigits (List.replicate (2 - (toString e.natAbs).length) '0' ++ Nat.toDigits 10 e.natAbs) :=
    (isDigits_toDigits _).zeros_append _
  have hvalue : digitsOf (List.replicate (2 - (toString e.natAbs).length) '0' ++ Nat.toDigits 10 e.natAbs) = e.natAbs := by
    simp [digitsOf_append]
  have hsize : (toString e.natAbs).toList = Nat.toDigits 10 e.natAbs := by
    rw [Nat.toString_eq_ofList_toDigits, String.toList_ofList]
  unfold Layout.exponentText
  simp only [String.toList_append, toList_zeros, hsize]
  by_cases hneg : e < 0
  · have hspells := SpellsExponent.minus (.inl rfl) hdigits
    have he : -((e.natAbs : Nat) : Int) = e := by omega
    rw [hvalue, he] at hspells
    rw [if_pos hneg]
    exact hspells
  · have hspells := SpellsExponent.plus (.inl rfl) hdigits
    have he : ((e.natAbs : Nat) : Int) = e := by omega
    rw [hvalue, he] at hspells
    rw [if_neg hneg]
    exact hspells

/-! ## Decimals -/

theorem isWhole_zero : IsWhole ['0'] := isWhole_toDigits 0

theorem isWhole_of_head?_ne {ds : List Char} (h : IsDigits ds) (hhead : ds.head? ≠ some '0') : IsWhole ds :=
  ⟨h, fun hzero => absurd hzero hhead⟩

theorem spellsNumber_decimal {fits : Nat → Prop} {negative : Bool} {ds fs behind es : List Char} {e : Option Int}
    (h : IsWhole ds) (hfraction : SpellsFraction behind fs) (hexponent : SpellsExponent es e)
    (hsome : fs ≠ [] ∨ e ≠ none) {n k : Nat} {q : Int} (hdigits : digitsOf (ds ++ fs) = n * 10 ^ k)
    (hq : e.getD 0 - fs.length + k = q) :
    SpellsNumber fits (signed negative (ds ++ behind ++ es)) (.float (.ofDecimal negative n q)) := by
  have hvalue : Binary64.ofDecimal negative (digitsOf (ds ++ fs)) (e.getD 0 - fs.length) = .ofDecimal negative n q := by
    rw [Binary64.ofDecimal, hdigits, Magnitude.ofDecimal?_mul_pow, hq]
    rfl
  rw [← hvalue]
  exact .decimal h hfraction hexponent hsome

theorem length_toDigits {n : Nat} (h : n ≠ 0) : (Nat.toDigits 10 n).length = decimalLength n := (if_neg h).symm

section

variable {fits : Nat → Prop} {n : Nat} {text : String} (hn : n ≠ 0) (htext : text.toList = Nat.toDigits 10 n)
  (negative : Bool)

include hn htext

theorem spellsNumber_exponent {x q : Int} (hx : x = q + decimalLength n - 1) :
    SpellsNumber fits
      (signed negative (Layout.withPoint (text.take 1).toString (text.drop 1).toString ++ Layout.exponentText x).toList)
      (.float (.ofDecimal negative n q)) := by
  have hlength := length_toDigits hn
  have hhead := head?_toDigits hn
  obtain ⟨c, tail, hcons⟩ := List.exists_cons_of_ne_nil (isDigits_toDigits n).1
  have hdigit : ∀ d ∈ c :: tail, isAsciiDigit d = true := hcons ▸ isAsciiDigit_toDigits
  have hwhole : (text.take 1).toString.toList = [c] := by rw [toList_take, htext, hcons]; rfl
  have hfraction : (text.drop 1).toString.toList = tail := by rw [toList_drop, htext, hcons]; rfl
  obtain ⟨behind, hpoint, hspells⟩ := exists_withPoint (text.take 1).toString (text.drop 1).toString
    (by rw [hfraction]; exact fun d hd => hdigit d (by simp [hd]))
  rw [String.toList_append, hpoint, hwhole]
  rw [hfraction] at hspells
  have hfirst : IsWhole [c] := by
    refine isWhole_of_head?_ne ⟨by simp, ?_⟩ (by rw [hcons] at hhead; exact hhead)
    exact fun d hd => hdigit d (by simp [List.mem_singleton.mp hd])
  rw [hcons] at hlength
  refine spellsNumber_decimal (k := 0) hfirst hspells (spellsExponent_exponentText x) (.inr (by simp)) ?_ ?_
  · rw [List.singleton_append, ← hcons, digitsOf_toDigits, Nat.pow_zero, Nat.mul_one]
  · simp only [Option.getD_some]
    simp at hlength
    omega

theorem spellsNumber_below_one {x q : Int} (hx : x = q + decimalLength n - 1) (hneg : x < 0) :
    SpellsNumber fits (signed negative ("0." ++ Layout.zeros (x.natAbs - 1) ++ text).toList)
      (.float (.ofDecimal negative n q)) := by
  have hlength := length_toDigits hn
  have hlist : ("0." ++ Layout.zeros (x.natAbs - 1) ++ text).toList =
      ['0'] ++ '.' :: (List.replicate (x.natAbs - 1) '0' ++ Nat.toDigits 10 n) ++ [] := by
    simp [htext, toList_zeros]
  have hdigits : IsDigits (List.replicate (x.natAbs - 1) '0' ++ Nat.toDigits 10 n) :=
    (isDigits_toDigits n).zeros_append _
  rw [hlist]
  refine spellsNumber_decimal (k := 0) isWhole_zero (.some hdigits) .none (.inl hdigits.1) ?_ ?_
  · have hzero : digitsOf ['0'] = 0 := rfl
    rw [digitsOf_append, digitsOf_append, hzero, digitsOf_zeros, digitsOf_toDigits]
    simp
  · simp
    omega

theorem toList_beforePoint (places : Nat) :
    ((text.take places).toString ++ Layout.zeros (places - text.length)).toList =
      (Nat.toDigits 10 n).take places ++ List.replicate (places - decimalLength n) '0' := by
  rw [String.toList_append, toList_take, toList_zeros, ← String.length_toList, htext, length_toDigits hn]

omit htext in
theorem isWhole_beforePoint {places : Nat} (h : places ≠ 0) :
    IsWhole ((Nat.toDigits 10 n).take places ++ List.replicate (places - decimalLength n) '0') := by
  have htake : IsDigits ((Nat.toDigits 10 n).take places) := (isDigits_toDigits n).take h
  apply isWhole_of_head?_ne (htake.append isAsciiDigit_zeros)
  rw [List.head?_append_of_ne_nil _ htake.1, List.head?_take, if_neg h]
  exact head?_toDigits hn

theorem spellsNumber_from_one {x q : Int} (hx : x = q + decimalLength n - 1) (hpos : 0 ≤ x) {places : Nat}
    (hplaces : places = x.toNat + 1) :
    SpellsNumber fits (signed negative (Layout.withPoint
      ((text.take places).toString ++ Layout.zeros (places - text.length))
      (if (text.drop places).toString = "" then "0" else (text.drop places).toString)).toList)
      (.float (.ofDecimal negative n q)) := by
  have hlength := length_toDigits hn
  have hwhole := toList_beforePoint hn htext places
  have hfirst : IsWhole ((Nat.toDigits 10 n).take places ++ List.replicate (places - decimalLength n) '0') :=
    isWhole_beforePoint hn (by omega)
  have hfraction : (text.drop places).toString.toList = (Nat.toDigits 10 n).drop places := by
    rw [toList_drop, htext]
  generalize (text.take places).toString ++ Layout.zeros (places - text.length) = whole at *
  by_cases hempty : (text.drop places).toString = ""
  case pos =>
    have hall : decimalLength n ≤ places := by
      rw [hempty, String.toList_empty, eq_comm, List.drop_eq_nil_iff, hlength] at hfraction
      exact hfraction
    obtain ⟨behind, hpoint, hspells⟩ := exists_withPoint whole "0" isWhole_zero.1.2
    rw [if_pos hempty, hpoint, hwhole, ← List.append_nil (_ ++ behind)]
    refine spellsNumber_decimal (k := places - decimalLength n + 1) hfirst hspells .none (.inl (by simp)) ?_ ?_
    · rw [List.take_of_length_le (by omega), digitsOf_append, digitsOf_append, digitsOf_toDigits, digitsOf_zeros]
      simp [Nat.pow_succ, Nat.mul_assoc]
      rfl
    · simp
      omega
  case neg =>
    have hsome : (Nat.toDigits 10 n).drop places ≠ [] := by
      rw [← hfraction, Ne, String.toList_eq_nil_iff]
      exact hempty
    have hless : places < decimalLength n := by
      rw [Ne, List.drop_eq_nil_iff] at hsome
      omega
    obtain ⟨behind, hpoint, hspells⟩ := exists_withPoint whole (text.drop places).toString
      (by rw [hfraction]; exact (isDigits_toDigits n).forall_drop places)
    rw [hfraction] at hspells
    rw [if_neg hempty, hpoint, hwhole, ← List.append_nil (_ ++ behind)]
    refine spellsNumber_decimal (k := 0) hfirst hspells .none (.inl hsome) ?_ ?_
    · have hnone : places - decimalLength n = 0 := by omega
      rw [hnone, List.replicate_zero, List.append_nil, List.take_append_drop, digitsOf_toDigits]
      simp
    · simp
      omega

end

theorem spellsNumber_write {fits : Nat → Prop} {d : Nat} (hd : d ≠ 0) (negative : Bool) (e : Int) :
    SpellsNumber fits (signed negative (Layout.exact.write ⟨d, e + decimalLength d - 1⟩).toList)
      (.float (.ofDecimal negative d e)) := by
  obtain ⟨n, j, rfl, hn, htext⟩ := exists_digitText hd
  have hvalue : Binary64.ofDecimal negative (n * 10 ^ j) e = .ofDecimal negative n (e + j) := by
    rw [Binary64.ofDecimal, Magnitude.ofDecimal?_mul_pow]
    rfl
  have hx : e + decimalLength (n * 10 ^ j) - 1 = e + j + decimalLength n - 1 := by
    rw [decimalLength_mul_pow hn]
    omega
  rw [hvalue, Layout.write]
  dsimp only
  split
  case isTrue => exact spellsNumber_exponent hn htext negative hx
  case isFalse =>
    split
    case isTrue hneg => exact spellsNumber_below_one hn htext negative hx hneg
    case isFalse hneg =>
      simp only [show Layout.exact.pointZero = true from rfl, and_true]
      exact spellsNumber_from_one hn htext negative hx (by omega) rfl

/-! ## Floating point numbers -/

theorem signText_append (negative : Bool) (s : String) :
    (Binary64.signText negative ++ s).toList = signed negative s.toList := by
  cases negative <;> simp [Binary64.signText, signed]

/-- **The text of a number spells it.** The text of a finite floating point number is a number of the grammar, and of
all numbers that one is the nearest to it. -/
theorem spellsNumber_text {fits : Nat → Prop} {x : Binary64} (h : x.isFinite = true) :
    SpellsNumber fits x.text.toList (.float x) := by
  cases x with
  | nan | infinity => cases h
  | finite negative m =>
    rw [Binary64.text, Binary64.textWith, signText_append]
    by_cases hzero : m.digits = 0
    · have hspells : SpellsNumber fits (signed negative "0.0".toList) (.float (.ofDecimal negative 0 (-1))) :=
        .decimal isWhole_zero (.some isWhole_zero.1) .none (.inl (by simp))
      rw [Binary64.ofDecimal, Magnitude.ofDecimal?_zero] at hspells
      rw [if_pos hzero, Magnitude.eq_zero_of_digits hzero]
      exact hspells
    · obtain ⟨d, e, hshort, hreads⟩ := Magnitude.shortest_spec hzero
      have hd : d ≠ 0 := by
        rintro rfl
        rw [Magnitude.ofDecimal?_zero] at hreads
        exact hzero (by rw [← Option.some.inj hreads]; rfl)
      have hvalue : Binary64.ofDecimal negative d e = .finite negative m := by rw [Binary64.ofDecimal, hreads]; rfl
      rw [if_neg hzero, hshort, ← hvalue]
      exact spellsNumber_write hd negative e

end Json

end FunctionMetrics
