import FunctionMetrics.Diagnostic.Store
import FunctionMetrics.Proofs.Diagnostic.Key
import FunctionMetrics.Proofs.Outcome

/-! # What a store holds

A list that is published or forgotten is that of one buffer, under whichever of its equal keys; all others stay. -/

namespace FunctionMetrics.Store

variable {s s' : Store} {b b' : Value} {ds : List Diagnostic}

/-! ## Entries -/

theorem lookup_insert (b b' : Value) (ds : List Diagnostic) (es : List (Value × List Diagnostic)) :
    lookup b (insert b' ds es) = if b'.sameKey b then ds else lookup b es := by
  induction es with
  | nil => simp [insert, lookup]
  | cons e rest ih =>
    obtain ⟨k, old⟩ := e
    by_cases hk : k.sameKey b' = true
    · rw [insert, if_pos hk, lookup, lookup, Value.sameKey_congr hk]
      split <;> rfl
    · rw [insert, if_neg hk, lookup, lookup, ih]
      by_cases hkb : k.sameKey b = true
      · have hb : ¬ b'.sameKey b = true := fun h => hk (Value.sameKey_trans hkb (Value.sameKey_symm h))
        simp only [if_pos hkb, if_neg hb]
      · simp only [if_neg hkb]

theorem lookup_filter (b b' : Value) (es : List (Value × List Diagnostic)) :
    lookup b (es.filter fun (k, _) => ! k.sameKey b') = if b'.sameKey b then [] else lookup b es := by
  induction es with
  | nil => simp [lookup]
  | cons e rest ih =>
    obtain ⟨k, old⟩ := e
    by_cases hk : k.sameKey b' = true
    · rw [List.filter_cons_of_neg (by simp [hk]), ih, lookup]
      by_cases hb : b'.sameKey b = true
      · simp only [if_pos hb]
      · have hkb : ¬ k.sameKey b = true := fun h => hb (Value.sameKey_trans (Value.sameKey_symm hk) h)
        simp only [if_neg hb, if_neg hkb]
    · rw [List.filter_cons_of_pos (by simp [hk]), lookup, lookup, ih]
      by_cases hkb : k.sameKey b = true
      · have hb : ¬ b'.sameKey b = true := fun h => hk (Value.sameKey_trans hkb (Value.sameKey_symm h))
        simp only [if_pos hkb, if_neg hb]
      · simp only [if_neg hkb]

/-! ## Operations -/

theorem checkKey_of_isKey (h : b.notKey? = none) : checkKey b = .ok () := by
  unfold checkKey; rw [h]

theorem get_of_isKey (s : Store) (h : b.notKey? = none) : s.get b = .ok (lookup b s.entries) := by
  rw [get, checkKey_of_isKey h]; rfl

theorem set_of_isKey (s : Store) (h : b.notKey? = none) (ds : List Diagnostic) :
    s.set b ds = .ok { s with entries := insert b ds s.entries } := by
  rw [set, checkKey_of_isKey h]; rfl

theorem clear_of_isKey (s : Store) (h : b.notKey? = none) : ∃ s', s.clear b = .ok s' := by
  unfold clear
  split
  · exact ⟨_, rfl⟩
  · exact ⟨_, by rw [checkKey_of_isKey h]; rfl⟩

theorem lookup_set (h : s.set b' ds = .ok s') (b : Value) :
    lookup b s'.entries = if b'.sameKey b then ds else lookup b s.entries := by
  obtain ⟨_, -, h⟩ := Outcome.bind_eq_ok.mp h
  cases h
  exact lookup_insert b b' ds s.entries

theorem lookup_clear (h : s.clear b' = .ok s') (b : Value) :
    lookup b s'.entries = if b'.sameKey b then [] else lookup b s.entries := by
  unfold clear at h
  split at h
  case isTrue hempty =>
    cases h
    rw [List.isEmpty_iff.mp hempty, lookup, ite_self]
  case isFalse =>
    obtain ⟨_, -, h⟩ := Outcome.bind_eq_ok.mp h
    cases h
    exact lookup_filter b b' s.entries

end FunctionMetrics.Store
