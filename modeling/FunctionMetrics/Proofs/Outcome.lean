import FunctionMetrics.Run
import Mathlib.Data.List.Forall2

/-!
# Outcomes and runs

A row of computations that may fail goes well exactly when each of them does, and its failure is the first one met.
What a run ends with does not hang on the events on the way.
-/

namespace FunctionMetrics

/-! ## Rows side by side -/

section

variable {α β : Type} {R : α → β → Prop} {xs : List α} {ys : List β}

theorem exists_of_mem_left (h : List.Forall₂ R xs ys) {x : α} (hx : x ∈ xs) : ∃ y ∈ ys, R x y := by
  induction h with
  | nil => cases hx
  | cons hR _ ih =>
    rcases List.mem_cons.mp hx with rfl | hx
    · exact ⟨_, List.mem_cons_self, hR⟩
    · obtain ⟨y, hy, hxy⟩ := ih hx
      exact ⟨y, List.mem_cons_of_mem _ hy, hxy⟩

theorem exists_of_mem_right (h : List.Forall₂ R xs ys) {y : β} (hy : y ∈ ys) : ∃ x ∈ xs, R x y :=
  exists_of_mem_left h.flip hy

/-- Where a search through one row ends, the same search through a row beside it ends too. -/
theorem find?_beside {p : α → Bool} {q : β → Bool} (h : List.Forall₂ R xs ys) (hpq : ∀ x y, R x y → q y = p x) :
    Option.Rel R (xs.find? p) (ys.find? q) := by
  induction h with
  | nil => exact .none
  | @cons x y _ _ hxy _ ih =>
    rw [List.find?_cons, List.find?_cons, hpq x y hxy]
    cases p x with
    | true => exact .some hxy
    | false => exact ih

end

/-! ## Outcomes -/

theorem eq_ok_of_toOption {ε α : Type} {x : Except ε α} {a : α} (h : x.toOption = some a) : x = .ok a := by
  cases x with
  | ok b => exact congrArg Except.ok (Option.some.inj h)
  | error e => cases h

namespace Outcome

variable {α β γ : Type}

@[simp] theorem ok_bind (a : α) (f : α → Outcome β) : (Except.ok a : Outcome α) >>= f = f a := rfl
@[simp] theorem error_bind (e : Failure) (f : α → Outcome β) : (Except.error e : Outcome α) >>= f = .error e := rfl
@[simp] theorem pure_eq (a : α) : (pure a : Outcome α) = .ok a := rfl
@[simp] theorem map_ok (a : α) (f : α → β) : (Except.ok a : Outcome α).map f = .ok (f a) := rfl
@[simp] theorem map_error (e : Failure) (f : α → β) : (Except.error e : Outcome α).map f = .error e := rfl

theorem bind_eq_ok {x : Outcome α} {f : α → Outcome β} {b : β} :
    x >>= f = .ok b ↔ ∃ a, x = .ok a ∧ f a = .ok b := by
  cases x <;> simp

theorem bind_eq_error {x : Outcome α} {f : α → Outcome β} {e : Failure} :
    x >>= f = .error e ↔ x = .error e ∨ ∃ a, x = .ok a ∧ f a = .error e := by
  cases x <;> simp

def FailsWith (p : Failure → Prop) (x : Outcome α) : Prop := ∀ e, x = .error e → p e

theorem failsWith_ok {p : Failure → Prop} (a : α) : FailsWith p (.ok a : Outcome α) := by
  intro e h
  cases h

theorem failsWith_error {p : Failure → Prop} {e : Failure} : FailsWith p (.error e : Outcome α) ↔ p e := by
  simp [FailsWith]

theorem failsWith_bind {p : Failure → Prop} {x : Outcome α} {f : α → Outcome β} :
    FailsWith p (x >>= f) ↔ FailsWith p x ∧ ∀ a, x = .ok a → FailsWith p (f a) := by
  cases x <;> simp [FailsWith]

theorem map_eq_ok {x : Outcome α} {f : α → β} {b : β} : x.map f = .ok b ↔ ∃ a, x = .ok a ∧ f a = b := by
  cases x <;> simp

theorem mapM_eq_ok {f : α → Outcome β} {xs : List α} {ys : List β} :
    xs.mapM f = .ok ys ↔ List.Forall₂ (fun x y => f x = .ok y) xs ys := by
  induction xs generalizing ys with
  | nil => cases ys <;> simp
  | cons x xs ih =>
    rw [List.mapM_cons]
    constructor
    · intro h
      obtain ⟨y, hy, h⟩ := bind_eq_ok.mp h
      obtain ⟨rest, hrest, h⟩ := bind_eq_ok.mp h
      cases h
      exact .cons hy (ih.mp hrest)
    · rintro (_ | ⟨hy, hrest⟩)
      simp [hy, ih.mpr hrest]

theorem mapM_eq_error {f : α → Outcome β} {xs : List α} {e : Failure} :
    xs.mapM f = .error e ↔
      ∃ before x after, xs = before ++ x :: after ∧ (∀ y ∈ before, ∃ b, f y = .ok b) ∧ f x = .error e := by
  induction xs with
  | nil => simp
  | cons x xs ih =>
    rw [List.mapM_cons, bind_eq_error]
    constructor
    · rintro (hx | ⟨b, hb, h⟩)
      · exact ⟨[], x, xs, rfl, by simp, hx⟩
      · rcases bind_eq_error.mp h with h | ⟨_, _, h⟩
        · obtain ⟨before, y, after, rfl, hbefore, hy⟩ := ih.mp h
          refine ⟨x :: before, y, after, rfl, ?_, hy⟩
          intro z hz
          rcases List.mem_cons.mp hz with rfl | hz
          · exact ⟨b, hb⟩
          · exact hbefore z hz
        · cases h
    · rintro ⟨before, y, after, hxs, hbefore, hy⟩
      cases before with
      | nil =>
        obtain ⟨rfl, rfl⟩ := List.cons.inj hxs
        exact .inl hy
      | cons z before =>
        obtain ⟨rfl, rfl⟩ := List.cons.inj hxs
        obtain ⟨b, hb⟩ := hbefore x (by simp)
        have h := ih.mpr ⟨before, y, after, rfl, fun z hz => hbefore z (by simp [hz]), hy⟩
        exact .inr ⟨b, hb, by rw [h]; rfl⟩

theorem mapM_ok_of_forall {f : α → Outcome β} {xs : List α} (h : ∀ x ∈ xs, ∃ y, f x = .ok y) :
    ∃ ys, xs.mapM f = .ok ys := by
  cases hxs : xs.mapM f with
  | ok ys => exact ⟨ys, rfl⟩
  | error e =>
    obtain ⟨before, x, after, rfl, -, hx⟩ := mapM_eq_error.mp hxs
    obtain ⟨y, hy⟩ := h x (by simp)
    rw [hx] at hy; cases hy

theorem mapM_append_eq_ok {f : α → Outcome β} {xs xs' : List α} {ys : List β} :
    (xs ++ xs').mapM f = .ok ys ↔ ∃ a b, xs.mapM f = .ok a ∧ xs'.mapM f = .ok b ∧ ys = a ++ b := by
  rw [List.mapM_append]
  constructor
  · intro h
    obtain ⟨a, ha, h⟩ := bind_eq_ok.mp h
    obtain ⟨b, hb, h⟩ := bind_eq_ok.mp h
    cases h
    exact ⟨a, b, ha, hb, rfl⟩
  · rintro ⟨a, b, ha, hb, rfl⟩
    simp [ha, hb]

end Outcome

section

variable {α : Type} {x : Except LibraryError α}

@[simp] theorem ofLibrary_ok (a : α) : ofLibrary (.ok a) = .ok a := rfl
@[simp] theorem ofLibrary_error (e : LibraryError) :
    ofLibrary (.error e : Except LibraryError α) = fail (.library e) := rfl

@[simp] theorem ofLibrary_eq_ok {a : α} : ofLibrary x = .ok a ↔ x = .ok a := by cases x <;> simp [fail]

theorem ofLibrary_ne_problem (p : Problem) : ofLibrary x ≠ .error (.problem p) := by cases x <;> simp [fail]

end

/-! ## Runs -/

namespace Run

variable {α β : Type}

@[simp] theorem result_pure (a : α) : (pure a : Run α).result = .ok a := rfl
@[simp] theorem result_liftM (x : Outcome α) : (liftM x : Run α).result = x := rfl
@[simp] theorem result_log (l : Level) (c : Channel) (t : String) : (log l c t).result = .ok () := rfl

@[simp] theorem result_bind (x : Run α) (f : α → Run β) :
    (x >>= f).result = x.result >>= fun a => (f a).result := by
  change (bind x f).result = _
  unfold bind
  cases x.result <;> rfl

theorem result_onProblem (x : Run α) (handle : Problem → Run α) :
    (x.onProblem handle).result =
      match x.result with
      | .error (.problem p) => (handle p).result
      | r => r := by
  unfold onProblem
  split <;> simp_all

end Run

@[simp] theorem Report.result_logged (root : Option Node) (t : Thresholds) (metric : Metric) :
    (Report.logged root t metric).result = Report.ofTree root t metric := by
  unfold Report.logged
  cases h : Report.ofTree root t metric with
  | error e => simp
  | ok r => cases root <;> simp

end FunctionMetrics
