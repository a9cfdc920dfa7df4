import FunctionMetrics.Proofs.Analysis.Counts
import FunctionMetrics.Proofs.Analysis.Nesting
import FunctionMetrics.Proofs.Analysis.PlainScores
import FunctionMetrics.Proofs.Number.Halves

/-!
# Scores in halves

Units of fewer than `10 ^ 9` nodes have numbers of halves as their scores, and these are written exactly. So two of them
are written alike only if they are equal, and none is written like a threshold below it.
-/

namespace FunctionMetrics

open Json

/-! ## Halves -/

theorem Magnitude.units_of_toRat {m : Magnitude} {k : Nat} (h : m.toRat = k / 2) : m.units = k * unitsInHalf := by
  have hone : (unitsInOne : ℚ) ≠ 0 := unitsInOne_cast_pos.ne'
  rw [toRat, div_eq_div_iff hone two_ne_zero, unitsInOne_eq] at h
  have hdouble : m.units * 2 = k * (unitsInHalf * 2) := by exact_mod_cast h
  rw [← Nat.mul_assoc] at hdouble
  exact Nat.mul_right_cancel (by decide) hdouble

theorem Binary64.isHalves_of_value {x : Binary64} {k : Nat} (hfinite : x.isFinite = true) (hk : 0 < k)
    (h : x.value = k / 2) : x.IsHalves k := by
  cases x with
  | nan | infinity => cases hfinite
  | finite negative m =>
    have hpos : (0 : ℚ) < k / 2 := by positivity
    have hsize : m.toRat = k / 2 := by rw [← abs_value negative, h, abs_of_pos hpos]
    cases negative with
    | false => exact ⟨m, rfl, Magnitude.units_of_toRat hsize⟩
    | true =>
      have hbelow : (finite true m).value = -m.toRat := by simp [value, units?, neg_div, Magnitude.toRat]
      rw [h, hsize] at hbelow
      linarith

theorem exists_isHalves {unit : Node} (h : unit.nodes.length < 10 ^ 9) :
    ∃ k, 2 ≤ k ∧ k < 2 * 10 ^ 9 ∧ (complexity unit).IsHalves k := by
  have hlength : unit.descendants.length + 1 = unit.nodes.length := by rw [Node.nodes_eq_cons, List.length_cons]
  have hsum := halvesSum_le unit.descendants
  exact ⟨_, by omega, by omega, complexity_isHalves unit (by omega)⟩

theorem isHalves_of_forest {unit : Node} {k : Nat} (hlength : (Node.forest unit.children).length < 2 ^ 51)
    (hsum : 2 + halvesSum (Node.forest unit.children) = k) : (complexity unit).IsHalves k := by
  rw [← Node.descendants_eq_forest] at hlength hsum
  rw [← hsum]
  exact complexity_isHalves unit hlength

theorem halvesText_inj {j k : Nat} (h : halvesText j = halvesText k) : j = k := by
  have hends : ∀ n : Nat, EndsDigits (if n % 2 = 0 then [] else ['.', '5']) := by
    intro n
    split
    · simp [EndsDigits]
    · exact endsDigits_cons rfl _
  have hspan : ∀ n, spanDigits (halvesText n).toList = (Nat.toDigits 10 (n / 2), if n % 2 = 0 then [] else ['.', '5']) :=
    fun n => by rw [toList_halvesText, spanDigits_append isAsciiDigit_toDigits (hends n)]
  have hparts := hspan j
  rw [h, hspan k, Prod.mk.injEq] at hparts
  have hwhole := congrArg digitsOf hparts.1
  rw [digitsOf_toDigits, digitsOf_toDigits] at hwhole
  have hrest : k % 2 = 0 ↔ j % 2 = 0 := by
    have := hparts.2
    split_ifs at this <;> simp_all
  omega

/-! ## Texts -/

theorem scoreText_of_isHalves {x : Binary64} {k : Nat} (h : x.IsHalves k) (hfew : 5 * k < 10 ^ 10) :
    scoreText (.float x) = .ok (halvesText k) := by
  have hone := Magnitude.unitsInOne_pos
  obtain ⟨m, rfl, hm⟩ := h
  by_cases heven : k % 2 = 0
  case pos =>
    have hunits : m.units = k / 2 * Magnitude.unitsInOne := by
      obtain ⟨j, rfl⟩ : ∃ j, k = 2 * j := ⟨k / 2, by omega⟩
      rw [hm, Magnitude.unitsInOne_eq, Nat.mul_div_cancel_left j (by decide)]
      ring
    simp only [scoreText]
    rw [if_pos (by rw [hunits, Nat.mul_mod_left]), hunits, Nat.mul_div_cancel _ hone, halvesText, if_pos heven,
      String.append_empty]
    rfl
  case neg =>
    have hfraction : ¬ m.units % Magnitude.unitsInOne = 0 := by
      intro hwhole
      obtain ⟨q, hq⟩ := Nat.dvd_of_mod_eq_zero hwhole
      rw [hm, Magnitude.unitsInOne_eq, Nat.mul_assoc, Nat.mul_comm] at hq
      have := Nat.mul_left_cancel Magnitude.unitsInHalf_pos hq
      omega
    have hbrief := Binary64.IsHalves.briefText_eq ⟨m, rfl, hm⟩ (by omega) hfew
    simp only [scoreText]
    rw [if_neg hfraction, hbrief]

theorem natText_eq (n : Nat) : toString n = halvesText (2 * n) := by
  rw [halvesText, Nat.mul_div_cancel_left n (by decide), if_pos (Nat.mul_mod_right 2 n), String.append_empty]

theorem sign_not_mem_halvesText (k : Nat) : '-' ∉ (halvesText k).toList := by
  have hsign : '-' ∉ Nat.toDigits 10 (k / 2) := fun hmem => absurd (isAsciiDigit_toDigits _ hmem) (by decide)
  rw [toList_halvesText]
  split <;> simp [hsign]

theorem value_of_intText {n : Int} {k : Nat} (h : toString n = halvesText k) : (n : ℚ) = k / 2 := by
  cases n with
  | ofNat n =>
    have hk : 2 * n = k := halvesText_inj (by rw [← natText_eq, ← h]; rfl)
    rw [← hk]
    change ((n : Int) : ℚ) = _
    push_cast
    ring
  | negSucc n =>
    have hsign : '-' ∈ (toString (Int.negSucc n)).toList := by
      rw [toList_intText, decide_eq_true (Int.negSucc_lt_zero n)]
      simp [signed]
    rw [h] at hsign
    exact absurd hsign (sign_not_mem_halvesText k)

theorem scoreText_of_zero {x : Binary64} (hfinite : x.isFinite = true) (h : x.value = 0) :
    scoreText (.float x) = .ok (halvesText 0) := by
  cases x with
  | nan | infinity => cases hfinite
  | finite negative m =>
    have hsize : m.toRat = (0 : Nat) / 2 := by rw [← Binary64.abs_value negative, h, abs_zero]; norm_num
    have hunits : m.units = 0 := (Magnitude.units_of_toRat hsize).trans (Nat.zero_mul _)
    simp only [scoreText]
    rw [if_pos (by rw [hunits, Nat.zero_mod]), hunits, Nat.zero_div]
    cases negative <;> rfl

theorem scoreText_of_value {x : Binary64} {k : Nat} (hfinite : x.isFinite = true) (h : x.value = k / 2)
    (hfew : 5 * k < 10 ^ 10) : scoreText (.float x) = .ok (halvesText k) := by
  rcases Nat.eq_zero_or_pos k with rfl | hk
  · exact scoreText_of_zero hfinite (by simpa using h)
  · exact scoreText_of_isHalves (Binary64.isHalves_of_value hfinite hk h) hfew

/-! ## Thresholds -/

section

variable {x : Binary64} {k : Nat} (h : x.IsHalves k) (hfew : 5 * k < 10 ^ 10) {limit : Number}
  (hlimit : limit < .float x)

include h hlimit

theorem limit_value_lt (hfinite : limit.isFinite = true) : limit.value < k / 2 := by
  have hx : (Number.float x).isFinite = true := by
    obtain ⟨m, rfl, -⟩ := h
    rfl
  rw [← h.value_eq]
  exact (Number.lt_iff_value_lt hfinite hx).mp hlimit

include hfew

theorem limitText_ne : limit.text ≠ halvesText k := by
  intro htext
  cases limit with
  | int n =>
    have hlt := limit_value_lt h hlimit rfl
    exact absurd (value_of_intText htext) hlt.ne
  | float y =>
    have hread := h.float?_eq hfew
    rw [← htext, Number.text, Typed.float?_text] at hread
    obtain rfl := Option.some.inj hread
    have hfinite : (Number.float y).isFinite = true := by
      obtain ⟨m, rfl, -⟩ := h
      rfl
    exact absurd h.value_eq (limit_value_lt h hlimit hfinite).ne

theorem limitScore_ne (hfinite : limit.isFinite = true) {j : Nat} (hj : limit.value = j / 2) :
    scoreText limit ≠ .ok (halvesText k) := by
  intro htext
  have hlt := limit_value_lt h hlimit hfinite
  cases limit with
  | int n =>
    by_cases hfits : n.natAbs < 10 ^ Number.maxDigits
    · rw [scoreText_int hfits] at htext
      exact absurd (value_of_intText (Except.ok.inj htext)) hlt.ne
    · rw [scoreText_long hfits] at htext
      cases htext
  | float y =>
    rw [hj] at hlt
    have hless : j < k := by
      have : (j : ℚ) < k := by linarith
      exact_mod_cast this
    rw [scoreText_of_value hfinite hj (by omega)] at htext
    have := halvesText_inj (Except.ok.inj htext)
    omega

end

/-! ## Messages -/

theorem message_of_isHalves {unit : Node} {t : Thresholds} {m : Measurement} {k : Nat}
    (h : Measurement.of unit t .cyclomatic = .ok m) (hk : (complexity unit).IsHalves k) (hfew : 5 * k < 10 ^ 10) :
    m.message = .ok ("Complexity: " ++ halvesText k) := by
  have hdescribes := Measurement.of_eq_ok_iff_describes.mp h
  have htext : scoreText m.score = .ok (halvesText k) := by
    rw [hdescribes.score]
    exact scoreText_of_isHalves hk hfew
  rw [Measurement.message_ok htext, hdescribes.label]
  rfl

/-- **Scores in halves are written exactly.** A unit of fewer than `10 ^ 9` nodes has a number of halves as its score,
one at least. Such a number is written with the digits of its whole part, and `.5` behind them if a half is left over.
Read again it is the same number, so two units with different scores have different messages. No threshold below the
score has that text, and none in halves has it as a score either. -/
theorem half_scores_written_exactly :
    (∀ unit : Node, unit.nodes.length < 10 ^ 9 → (complexity unit).isFinite = true ∧
      ∃ k : Nat, 2 ≤ k ∧ k < 2 * 10 ^ 9 ∧ (complexity unit).value = k / 2) ∧
    (∀ (x : Binary64) (k : Nat), x.isFinite = true → 2 ≤ k → k < 2 * 10 ^ 9 → x.value = k / 2 →
      scoreText (.float x) = .ok (halvesText k) ∧ Typed.float? (halvesText k) = some x ∧
      ∀ limit : Number, limit < .float x → limit.text ≠ halvesText k ∧
        ∀ j : Nat, limit.isFinite = true → limit.value = j / 2 → scoreText limit ≠ .ok (halvesText k)) ∧
    (∀ (a b : Node) (t t' : Thresholds) (m m' : Measurement), a.nodes.length < 10 ^ 9 → b.nodes.length < 10 ^ 9 →
      Measurement.of a t .cyclomatic = .ok m → Measurement.of b t' .cyclomatic = .ok m' →
      m.message = m'.message → m.score = m'.score) := by
  refine ⟨?_, ?_, ?_⟩
  case refine_1 =>
    intro unit hunit
    obtain ⟨k, hlow, hhigh, hk⟩ := exists_isHalves hunit
    exact ⟨complexity_isFinite unit, k, hlow, hhigh, hk.value_eq⟩
  case refine_2 =>
    intro x k hfinite hlow hhigh hvalue
    have hk := Binary64.isHalves_of_value hfinite (by omega) hvalue
    have hfew : 5 * k < 10 ^ 10 := by omega
    refine ⟨scoreText_of_isHalves hk hfew, hk.float?_eq hfew, fun limit hlimit => ⟨?_, ?_⟩⟩
    · exact limitText_ne hk hfew hlimit
    · exact fun j hlimit' hj => limitScore_ne hk hfew hlimit hlimit' hj
  case refine_3 =>
    intro a b t t' m m' ha hb hm hm' hmessage
    obtain ⟨j, -, hj, hja⟩ := exists_isHalves ha
    obtain ⟨k, -, hk, hkb⟩ := exists_isHalves hb
    rw [message_of_isHalves hm hja (by omega), message_of_isHalves hm' hkb (by omega)] at hmessage
    have htext := congrArg String.toList (Except.ok.inj hmessage)
    rw [String.toList_append, String.toList_append, List.append_cancel_left_eq, String.toList_inj] at htext
    obtain rfl := halvesText_inj htext
    rw [(Measurement.of_eq_ok_iff_describes.mp hm).score, (Measurement.of_eq_ok_iff_describes.mp hm').score]
    exact congrArg Number.float (hja.unique hkb)

def summing : Node := functionAt 0 1 [{ kind := "binary_expression" }]

/-- A half above the threshold one is not written as one, nor is it in a message. -/
theorem half_scores_written_exactly_summing :
    scoreText (.float (complexity summing)) = .ok "1.5" ∧ Typed.float? "1.5" = some (complexity summing) ∧
      (1 : Number) < .float (complexity summing) ∧ (1 : Number).text ≠ "1.5" ∧
      ∃ m m', Measurement.of summing {} .cyclomatic = .ok m ∧ Measurement.of (functionAt 0 1 []) {} .cyclomatic = .ok m' ∧
        m.message ≠ m'.message := by
  obtain ⟨-, hexact, hmessages⟩ := half_scores_written_exactly
  have hsumming : summing.nodes.length < 10 ^ 9 := by
    rw [Node.nodes_eq_preorder]
    decide
  have hempty : (functionAt 0 1 []).nodes.length < 10 ^ 9 := by
    rw [Node.nodes_eq_preorder]
    decide
  have hthree : (complexity summing).IsHalves 3 := isHalves_of_forest (by decide) (by decide)
  have htwo : (complexity (functionAt 0 1 [])).IsHalves 2 := isHalves_of_forest (by decide) (by decide)
  obtain ⟨htext, hread, hlimits⟩ :=
    hexact (complexity summing) 3 (complexity_isFinite summing) (by decide) (by decide) hthree.value_eq
  have habove : (1 : Number) < .float (complexity summing) := by
    refine (Number.lt_iff_value_lt (b := .float _) rfl (complexity_isFinite summing)).mpr ?_
    change ((1 : Int) : ℚ) < (complexity summing).value
    rw [hthree.value_eq]
    norm_num
  obtain ⟨name, hname⟩ := functionAt_hasName 0 1 [{ kind := "binary_expression" }]
  obtain ⟨name', hname'⟩ := functionAt_hasName 0 1 []
  refine ⟨htext, hread, habove, (hlimits 1 habove).1, _, _, Measurement.of_found hname, Measurement.of_found hname', ?_⟩
  intro hmessage
  have hscore := hmessages _ _ {} {} _ _ hsumming hempty (Measurement.of_found hname) (Measurement.of_found hname') hmessage
  have hequal : complexity summing = complexity (functionAt 0 1 []) := Number.float.inj hscore
  have hvalue := hthree.value_eq
  rw [hequal, htwo.value_eq] at hvalue
  norm_num at hvalue

end FunctionMetrics
