import FunctionMetrics.Analysis.Report
import FunctionMetrics.Proofs.Json.Numbers
import FunctionMetrics.Proofs.Number.Limits
import FunctionMetrics.Proofs.Number.Significant
import FunctionMetrics.Proofs.Outcome

/-!
# Plain scores

A score is written as a plain decimal or with a power of ten. Which of the two follows from its value alone: whole
scores are plain, and others where ten digits round them neither too low nor too high.
-/

namespace FunctionMetrics

open Json

/-! ## Decimals -/

/-- Digits, perhaps with a sign before them and with a point and more digits behind them. -/
def IsPlain (cs : List Char) : Prop :=
  ∃ negative ds behind fs, IsDigits ds ∧ SpellsFraction behind fs ∧ cs = signed negative (ds ++ behind)

def IsScientific (cs : List Char) : Prop :=
  ∃ negative ds behind fs es e, IsDigits ds ∧ SpellsFraction behind fs ∧ SpellsExponent es (some e) ∧
    cs = signed negative (ds ++ behind ++ es)

def isExponentMark (c : Char) : Bool := c = 'e' || c = 'E'

theorem isExponentMark_of_digits {ds : List Char} (h : IsDigits ds) : ∀ c ∈ ds, isExponentMark c = false := by
  intro c hc
  have hdigit := h.2 c hc
  by_contra hmark
  simp only [isExponentMark, Bool.or_eq_false_iff, decide_eq_false_iff_not, not_and_or, not_not] at hmark
  rcases hmark with rfl | rfl
  · exact absurd hdigit (by decide)
  · exact absurd hdigit (by decide)

theorem IsPlain.no_mark {cs : List Char} (h : IsPlain cs) : ∀ c ∈ cs, isExponentMark c = false := by
  obtain ⟨negative, ds, behind, fs, hds, hbehind, rfl⟩ := h
  have hfraction : ∀ c ∈ behind, isExponentMark c = false := by
    cases hbehind with
    | none => simp
    | some hfs => exact List.forall_mem_cons.mpr ⟨rfl, isExponentMark_of_digits hfs⟩
  have hunsigned : ∀ c ∈ ds ++ behind, isExponentMark c = false :=
    List.forall_mem_append.mpr ⟨isExponentMark_of_digits hds, hfraction⟩
  cases negative with
  | false => exact hunsigned
  | true => exact List.forall_mem_cons.mpr ⟨rfl, hunsigned⟩

theorem exists_mark {es : List Char} {e : Int} (h : SpellsExponent es (some e)) : ∃ c ∈ es, isExponentMark c = true := by
  cases h with
  | plain he | plus he | minus he => exact ⟨_, List.mem_cons_self, by rcases he with rfl | rfl <;> rfl⟩

theorem IsScientific.not_isPlain {cs : List Char} (h : IsScientific cs) : ¬ IsPlain cs := by
  obtain ⟨negative, ds, behind, fs, es, e, -, -, hes, rfl⟩ := h
  intro hplain
  obtain ⟨c, hc, hmark⟩ := exists_mark hes
  have hmem : c ∈ signed negative (ds ++ behind ++ es) := by cases negative <;> simp [signed, hc]
  rw [hplain.no_mark c hmem] at hmark
  cases hmark

theorem isPlain_intText (n : Int) : IsPlain (toString n).toList := by
  have hspells : SpellsNumber (fun _ => True) (toString n).toList (.int n) := spellsNumber_int trivial
  generalize (toString n).toList = cs at hspells
  cases hspells with
  | whole hwhole => exact ⟨_, _, [], [], hwhole.1, .none, by rw [List.append_nil]⟩

/-! ## Layouts -/

namespace Layout

variable {l : Layout} {s : Significand}

theorem isDigits_digitText (d : Nat) : IsDigits (digitText d).toList := by
  by_cases hd : d = 0
  · rw [hd]
    exact isWhole_zero.1
  · obtain ⟨n, j, -, -, htext⟩ := exists_digitText hd
    rw [htext]
    exact isDigits_toDigits n

theorem write_plain (hlow : l.lowest ≤ s.exponent) (hhigh : s.exponent < l.limit) :
    ∃ ds behind fs, IsDigits ds ∧ SpellsFraction behind fs ∧ (l.write s).toList = ds ++ behind := by
  have hdigits := isDigits_digitText s.digits
  unfold write
  dsimp only
  generalize digitText s.digits = text at *
  rw [if_neg (by omega)]
  split
  case isTrue =>
    refine ⟨['0'], _, _, isWhole_zero.1, .some (hdigits.zeros_append (s.exponent.natAbs - 1)), ?_⟩
    simp [toList_zeros]
  case isFalse =>
    have hwhole : IsDigits ((text.take (s.exponent.toNat + 1)).toString ++
        zeros (s.exponent.toNat + 1 - text.length)).toList := by
      rw [String.toList_append, toList_take, toList_zeros]
      exact (hdigits.take (by omega)).append isAsciiDigit_zeros
    have hrest : ∀ c ∈ (if (text.drop (s.exponent.toNat + 1)).toString = "" ∧ l.pointZero then "0"
        else (text.drop (s.exponent.toNat + 1)).toString).toList, Text.isAsciiDigit c = true := by
      split
      · exact isWhole_zero.1.2
      · rw [toList_drop]
        exact hdigits.forall_drop _
    obtain ⟨behind, htext, hbehind⟩ := exists_withPoint _ _ hrest
    exact ⟨_, behind, _, hwhole, hbehind, htext⟩

theorem write_scientific (h : s.exponent < l.lowest ∨ l.limit ≤ s.exponent) :
    ∃ ds behind fs es, IsDigits ds ∧ SpellsFraction behind fs ∧ SpellsExponent es (some s.exponent) ∧
      (l.write s).toList = ds ++ behind ++ es := by
  have hdigits := isDigits_digitText s.digits
  unfold write
  dsimp only
  generalize digitText s.digits = text at *
  rw [if_pos h]
  have hfirst : IsDigits (text.take 1).toString.toList := by
    rw [toList_take]
    exact hdigits.take (by decide)
  have hrest : ∀ c ∈ (text.drop 1).toString.toList, Text.isAsciiDigit c = true := by
    rw [toList_drop]
    exact hdigits.forall_drop 1
  obtain ⟨behind, htext, hbehind⟩ := exists_withPoint (text.take 1).toString _ hrest
  exact ⟨_, behind, _, _, hfirst, hbehind, spellsExponent_exponentText _, by rw [String.toList_append, htext]⟩

end Layout

/-! ## Ten digits -/

namespace Magnitude

variable {m : Magnitude}

theorem lowest_le_exponent_iff (h : m.digits ≠ 0) :
    Layout.brief.lowest ≤ (m.significant 10).exponent ↔ 1 / 10 ^ 4 - 1 / (2 * 10 ^ 14) ≤ m.toRat := by
  have hpower : (10 : ℚ) ^ (-4 : Int) - 10 ^ (-4 - (10 : Nat) : Int) / 2 = 1 / 10 ^ 4 - 1 / (2 * 10 ^ 14) := by norm_num
  rw [← hpower]
  exact le_exponent_significant_iff h (by decide) (-4)

theorem exponent_lt_limit_iff (h : m.digits ≠ 0) :
    (m.significant 10).exponent < Layout.brief.limit ↔ m.toRat < 10 ^ 10 - 1 / 2 := by
  have hpower : (10 : ℚ) ^ (10 : Int) - 10 ^ (10 - (10 : Nat) : Int) / 2 = 10 ^ 10 - 1 / 2 := by norm_num
  rw [← not_le, ← not_le, ← hpower]
  exact not_congr (le_exponent_significant_iff h (by decide) 10)

end Magnitude

/-! ## Scores -/

/-- Whether a finite number is written as a plain decimal. A whole one needs digits that fit. Another one is not
rounded below `10 ^ -4` by ten digits, and not up to `10 ^ 10`. -/
def Number.WritesPlain : Number → Prop
  | .int n => n.natAbs < 10 ^ maxDigits
  | .float x => (∃ k : Int, x.value = k) ∨ 1 / 10 ^ 4 - 1 / (2 * 10 ^ 14) ≤ |x.value| ∧ |x.value| < 10 ^ 10 - 1 / 2

theorem scoreText_int {n : Int} (h : n.natAbs < 10 ^ Number.maxDigits) : scoreText (.int n) = .ok (toString n) := by
  rw [scoreText, Number.digits?_eq (Number.digits?_isSome_iff.mpr h)]
  rfl

theorem scoreText_long {n : Int} (h : ¬ n.natAbs < 10 ^ Number.maxDigits) :
    scoreText (.int n) = .error (.fault .unwritable) := by
  have hnone : Number.digits? n = none := by
    rw [← Option.not_isSome_iff_eq_none]
    exact mt Number.digits?_isSome_iff.mp h
  rw [scoreText, hnone]
  rfl

section

variable {negative : Bool} {m : Magnitude}

theorem scoreText_whole (h : m.units % Magnitude.unitsInOne = 0) :
    ∃ n : Int, scoreText (.float (.finite negative m)) = .ok (toString n) := ⟨_, if_pos h⟩

theorem digits_ne_zero_of_fraction (h : ¬ m.units % Magnitude.unitsInOne = 0) : m.digits ≠ 0 := by
  intro hzero
  rw [Magnitude.units_eq, hzero] at h
  simp at h

theorem scoreText_fraction (h : ¬ m.units % Magnitude.unitsInOne = 0) :
    scoreText (.float (.finite negative m)) =
      .ok (Binary64.signText negative ++ Layout.brief.write (m.significant 10)) := by
  simp only [scoreText, if_neg h, Binary64.briefText, Binary64.textWith, if_neg (digits_ne_zero_of_fraction h)]

end

theorem exists_plain_scoreText {score : Number} (hfinite : score.isFinite = true) (h : score.WritesPlain) :
    ∃ text, scoreText score = .ok text ∧ IsPlain text.toList := by
  cases score with
  | int n => exact ⟨_, scoreText_int h, isPlain_intText n⟩
  | float x =>
    cases x with
    | nan | infinity => cases hfinite
    | finite negative m =>
      by_cases hwhole : m.units % Magnitude.unitsInOne = 0
      case pos =>
        obtain ⟨n, hn⟩ := @scoreText_whole negative m hwhole
        exact ⟨_, hn, isPlain_intText n⟩
      case neg =>
        have hdigits := digits_ne_zero_of_fraction hwhole
        obtain ⟨hlow, hhigh⟩ := h.resolve_left (mt Binary64.isWhole_iff.mpr hwhole)
        rw [Binary64.abs_value] at hlow hhigh
        obtain ⟨ds, behind, fs, hds, hbehind, htext⟩ :=
          Layout.write_plain ((Magnitude.lowest_le_exponent_iff hdigits).mpr hlow)
            ((Magnitude.exponent_lt_limit_iff hdigits).mpr hhigh)
        refine ⟨_, scoreText_fraction hwhole, negative, ds, behind, fs, hds, hbehind, ?_⟩
        rw [signText_append, htext]

theorem exists_scientific_scoreText {x : Binary64} (hfinite : x.isFinite = true) (h : ¬ (Number.float x).WritesPlain) :
    ∃ text, scoreText (.float x) = .ok text ∧ IsScientific text.toList := by
  cases x with
  | nan | infinity => cases hfinite
  | finite negative m =>
    obtain ⟨hfraction, hrange⟩ := not_or.mp h
    have hwhole : ¬ m.units % Magnitude.unitsInOne = 0 := mt Binary64.isWhole_iff.mp hfraction
    have hdigits := digits_ne_zero_of_fraction hwhole
    rw [Binary64.abs_value, ← Magnitude.lowest_le_exponent_iff hdigits, ← Magnitude.exponent_lt_limit_iff hdigits,
      not_and_or, not_le, not_lt] at hrange
    obtain ⟨ds, behind, fs, es, hds, hbehind, hes, htext⟩ := Layout.write_scientific hrange
    refine ⟨_, scoreText_fraction hwhole, negative, ds, behind, fs, es, _, hds, hbehind, hes, ?_⟩
    rw [signText_append, htext]

namespace Measurement

theorem message_ok {m : Measurement} {text : String} (h : scoreText m.score = .ok text) :
    m.message = .ok (m.label ++ ": " ++ text) := by
  rw [message, h]
  rfl

theorem message_error {m : Measurement} {e : Failure} (h : scoreText m.score = .error e) : m.message = .error e := by
  rw [message, h]
  rfl

/-- **Which scores are plain decimals.** The text of a finite score is a plain decimal if ten digits write it without
a power of ten or it is whole and its digits fit, and the message is that text behind the label. A whole score with
more digits has no text at all. Any other score is written with a power of ten. -/
theorem score_written_plain (m : Measurement) (h : m.score.isFinite = true) :
    (m.score.WritesPlain → ∃ text, scoreText m.score = .ok text ∧ IsPlain text.toList ∧
      m.message = .ok (m.label ++ ": " ++ text)) ∧
    (¬ m.score.WritesPlain →
      (∀ n, m.score = .int n → scoreText m.score = .error (.fault .unwritable) ∧
        m.message = .error (.fault .unwritable)) ∧
      (∀ x, m.score = .float x → ∃ text, scoreText m.score = .ok text ∧ IsScientific text.toList ∧
        ¬ IsPlain text.toList ∧ m.message = .ok (m.label ++ ": " ++ text))) := by
  refine ⟨?_, fun hplain => ⟨?_, ?_⟩⟩
  case refine_1 =>
    intro hplain
    obtain ⟨text, htext, hshape⟩ := exists_plain_scoreText h hplain
    exact ⟨text, htext, hshape, message_ok htext⟩
  case refine_2 =>
    intro n hn
    rw [hn] at hplain
    have htext : scoreText m.score = .error (.fault .unwritable) := by
      rw [hn]
      exact scoreText_long hplain
    exact ⟨htext, message_error htext⟩
  case refine_3 =>
    intro x hx
    rw [hx] at h hplain
    obtain ⟨text, htext, hshape⟩ := exists_scientific_scoreText h hplain
    rw [← hx] at htext
    exact ⟨text, htext, hshape, hshape.not_isPlain, message_ok htext⟩

def oneAndHalf : Measurement where
  name := "f"
  nameRange := ⟨⟨0, 4⟩, ⟨0, 5⟩⟩
  unitRange := ⟨⟨0, 0⟩, ⟨1, 8⟩⟩
  score := .float (Binary64.one + Binary64.half)
  severity := .info

theorem score_written_plain_halves :
    ∃ text, scoreText oneAndHalf.score = .ok text ∧ IsPlain text.toList ∧
      oneAndHalf.message = .ok ("Complexity: " ++ text) := by
  have hvalue : (Binary64.one + Binary64.half).value = 3 / 2 :=
    (Binary64.isHalves_one.add Binary64.isHalves_half (by decide)).value_eq
  have hplain : oneAndHalf.score.WritesPlain := by
    right
    rw [hvalue]
    norm_num [abs_of_pos]
  exact (score_written_plain oneAndHalf (by decide +kernel)).1 hplain

/-- A hundred thousandth has one digit, and even that one is written with a power of ten. -/
theorem hundred_thousandth_not_plain :
    scoreText (.float (.ofDecimal false 1 (-5))) = .ok "1e-05" ∧ ¬ IsPlain "1e-05".toList := by
  have htext : (scoreText (.float (.ofDecimal false 1 (-5)))).toOption = some "1e-05" := by decide +kernel
  refine ⟨eq_ok_of_toOption htext, fun hplain => ?_⟩
  have hmark := hplain.no_mark 'e' (by decide)
  cases hmark

end Measurement

end FunctionMetrics
