import FunctionMetrics.Value.Basic
import FunctionMetrics.Proofs.Diagnostic.Key

/-!
# Entries put over others

What is put over entries wins, and the rest shows through. A key that is known keeps its place, so the keys are those
from below and then the new ones, each in their order.
-/

namespace FunctionMetrics.Entries

variable {k k' v : Value} {es others : Entries}

/-! ## Looking up -/

theorem get?_put (k k' v : Value) (es : Entries) :
    get? k' (put k v es) = if k.sameKey k' then some v else get? k' es := by
  induction es with
  | nil => rfl
  | cons e rest ih =>
    obtain ⟨l, old⟩ := e
    by_cases hl : l.sameKey k = true
    · rw [put, if_pos hl, get?, get?, Value.sameKey_congr hl]
      split <;> rfl
    · rw [put, if_neg hl, get?, get?, ih]
      by_cases hlk : l.sameKey k' = true
      · have hk : ¬ k.sameKey k' = true := fun h => hl (Value.sameKey_trans hlk (Value.sameKey_symm h))
        rw [if_pos hlk, if_neg hk, if_pos hlk]
      · simp only [if_neg hlk]

theorem get?_of_none (h : ∀ e ∈ es, ¬ e.1.sameKey k = true) : get? k es = none := by
  induction es with
  | nil => rfl
  | cons e rest ih =>
    rw [get?, if_neg (h e List.mem_cons_self)]
    exact ih fun e he => h e (List.mem_cons_of_mem _ he)

theorem mem_of_get? (h : get? k es = some v) : ∃ l, (l, v) ∈ es := by
  induction es with
  | nil => cases h
  | cons e rest ih =>
    rw [get?] at h
    split at h
    · obtain rfl := Option.some.inj h
      exact ⟨e.1, List.mem_cons_self⟩
    · obtain ⟨l, hl⟩ := ih h
      exact ⟨l, List.mem_cons_of_mem _ hl⟩

def Distinct (es : Entries) : Prop := es.Pairwise fun a b => ¬ a.1.sameKey b.1 = true

instance (es : Entries) : Decidable es.Distinct :=
  inferInstanceAs (Decidable (es.Pairwise fun a b => ¬ a.1.sameKey b.1 = true))

@[simp] theorem update_nil (es : Entries) : es.update [] = es := rfl

theorem update_cons (es : Entries) (e : Value × Value) (rest : Entries) :
    es.update (e :: rest) = (put e.1 e.2 es).update rest := rfl

theorem get?_update (h : others.Distinct) (k : Value) (es : Entries) :
    get? k (es.update others) = (get? k others).or (get? k es) := by
  induction others generalizing es with
  | nil => rfl
  | cons e rest ih =>
    obtain ⟨hfirst, hrest⟩ := List.pairwise_cons.mp h
    rw [update_cons, ih hrest, get?_put, get?]
    by_cases he : e.1.sameKey k = true
    · -- The key stands nowhere behind, or it would be there twice.
      have hnone : get? k rest = none := by
        apply get?_of_none
        intro e' he' hk
        exact hfirst e' he' (Value.sameKey_trans he (Value.sameKey_symm hk))
      rw [if_pos he, if_pos he, hnone]; rfl
    · rw [if_neg he, if_neg he]

theorem field?_update (h : others.Distinct) (name : String) (es : Entries) :
    (es.update others).field? name = (others.field? name).or (es.field? name) := get?_update h _ es

theorem put_of_none (h : ∀ e ∈ es, ¬ e.1.sameKey k = true) : put k v es = es ++ [(k, v)] := by
  induction es with
  | nil => rfl
  | cons e rest ih =>
    rw [put, if_neg (h e List.mem_cons_self), ih fun e he => h e (List.mem_cons_of_mem _ he)]
    rfl

theorem update_eq_append (h : (es ++ others).Distinct) : es.update others = es ++ others := by
  induction others generalizing es with
  | nil => exact (List.append_nil es).symm
  | cons e rest ih =>
    have hnone : ∀ e' ∈ es, ¬ e'.1.sameKey e.1 = true := fun e' he' =>
      (List.pairwise_append.mp h).2.2 e' he' e List.mem_cons_self
    rw [update_cons, put_of_none hnone, ih (by rwa [List.append_assoc]), List.append_assoc]
    rfl

/-- Pairs without a key that stands twice are entries as they are. -/
theorem ofList_eq (h : es.Distinct) : ofList es = es := by
  have hdistinct : Distinct ([] ++ es) := h
  exact update_eq_append hdistinct

/-! ## Keys -/

def stranger? (isKnown : Value → Bool) (es : Entries) : Option Value := (es.map (·.1)).find? fun k => ! isKnown k

theorem find?_entry (isKnown : Value → Bool) (es : Entries) :
    (es.find? fun (k, _) => ! isKnown k).map (·.1) = es.stranger? isKnown := by
  rw [stranger?, List.find?_map]; rfl

theorem stranger?_cons (isKnown : Value → Bool) (e : Value × Value) (rest : Entries) :
    stranger? isKnown (e :: rest) = if isKnown e.1 then stranger? isKnown rest else some e.1 := by
  rw [stranger?, List.map_cons, List.find?_cons]
  cases isKnown e.1 <;> rfl

section

variable {isKnown : Value → Bool} (hknown : ∀ {a b : Value}, a.sameKey b = true → isKnown a = isKnown b)

include hknown

theorem stranger?_put (k v : Value) (es : Entries) :
    (put k v es).stranger? isKnown = (es.stranger? isKnown).or (if isKnown k then none else some k) := by
  induction es with
  | nil => rw [put, stranger?_cons]; rfl
  | cons e rest ih =>
    obtain ⟨l, old⟩ := e
    by_cases hl : l.sameKey k = true
    · rw [put, if_pos hl, stranger?_cons, stranger?_cons, ← hknown hl]
      cases isKnown l <;> simp
    · rw [put, if_neg hl, stranger?_cons, stranger?_cons, ih]
      cases isKnown l <;> rfl

theorem stranger?_update (es others : Entries) :
    (es.update others).stranger? isKnown = (es.stranger? isKnown).or (others.stranger? isKnown) := by
  induction others generalizing es with
  | nil => simp [stranger?]
  | cons e rest ih =>
    rw [update_cons, ih, stranger?_put hknown, stranger?_cons, Option.or_assoc]
    cases isKnown e.1 <;> rfl

end

end FunctionMetrics.Entries
