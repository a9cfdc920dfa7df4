import FunctionMetrics.Installed
import FunctionMetrics.Session
import FunctionMetrics.Proofs.Diagnostic.Report
import FunctionMetrics.Proofs.Diagnostic.Store
import FunctionMetrics.Proofs.Source.Tree

/-!
# What a buffer holds

Whatever happens to a session, a buffer holds what was last written to it. Only a list set on it, a request to forget
it and a refresh that answers yes write to it; a refresh answers no when the tree cannot be had or a unit has no name.
-/

namespace FunctionMetrics.Session

/-! ## Steps -/

/-- What can happen to a session: a request, a list that is published as it is, or a change of what it works on. -/
inductive Step
  | request (r : Request)
  | put (buffer : Value) (ds : List Diagnostic)
  | change (w : Workspace)

def step (s : Session) : Step → Session
  | .request r => s.after r
  | .put buffer ds =>
    match s.store.set buffer ds with
    | .ok store => { s with store }
    | .error _ => s
  | .change w => { s with workspace := w }

def run (s : Session) (steps : List Step) : Session := steps.foldl step s

def Answers (s : Session) (r : Request) (a : Answer) : Prop := ∃ s', (s.handle r).result = .ok (a, s')

def confirms (s : Session) (r : Request) : Bool :=
  match (s.handle r).result with
  | .ok (.done b, _) => b
  | _ => false

/-! ## Writes -/

def treeDiagnostics (s : Session) : Outcome (List Diagnostic) :=
  s.currentTree.result >>= fun root => (Diagnostic.ofTree s.options root).result

def written? (s : Session) (b : Value) : Step → Option (List Diagnostic)
  | .put buffer ds => if buffer.sameKey b then some ds else none
  | .request (.set buffer r) => if buffer.sameKey b then (Diagnostic.ofReport r).toOption else none
  | .request (.clear buffer) => if buffer.sameKey b then some [] else none
  | .request (.refresh buffer) =>
    if buffer.sameKey b ∧ s.confirms (.refresh buffer) then s.treeDiagnostics.toOption else none
  | .request (.publish buffer) =>
    if buffer.sameKey b ∧ s.confirms (.publish buffer) then s.treeDiagnostics.toOption else none
  | _ => none

def lastWritten? (s : Session) (b : Value) : List Step → Option (List Diagnostic)
  | [] => none
  | e :: rest => (lastWritten? (s.step e) b rest).or (s.written? b e)

def published (s : Session) (b : Value) : List Diagnostic := Store.lookup b s.store.entries

/-! ## Refreshing -/

theorem result_freshDiagnostics? (s : Session) (b : Value) :
    (s.freshDiagnostics? b).result =
      match s.treeDiagnostics with
      | .ok ds => .ok (some ds)
      | .error (.problem _) => .ok none
      | .error (.fault f) => .error (.fault f) := by
  unfold freshDiagnostics? treeDiagnostics
  rw [Run.result_onProblem]
  simp only [Run.result_bind, Run.result_pure]
  cases s.currentTree.result with
  | error e => cases e <;> rfl
  | ok root =>
    simp only [Outcome.ok_bind]
    cases (Diagnostic.ofTree s.options root).result with
    | error e => cases e <;> rfl
    | ok ds => rfl

theorem result_refresh (s : Session) (b : Value) :
    (s.refresh b).result =
      match s.treeDiagnostics with
      | .ok ds => (s.store.set b ds).map fun store => (true, { s with store })
      | .error (.problem _) => .ok (false, s)
      | .error (.fault f) => .error (.fault f) := by
  unfold refresh
  rw [Run.result_bind, result_freshDiagnostics?]
  cases s.treeDiagnostics with
  | error e => cases e <;> rfl
  | ok ds =>
    simp only [Outcome.ok_bind, Run.result_bind, Run.result_liftM, Run.result_log, Run.result_pure]
    cases s.store.set b ds <;> rfl

theorem result_handle_refresh (s : Session) (b : Value) :
    (s.handle (.refresh b)).result = (s.refresh b).result.map fun (done, s) => (.done done, s) := by
  change (s.refresh b >>= fun p => pure (Answer.done p.1, p.2)).result = _
  rw [Run.result_bind]
  cases (s.refresh b).result <;> rfl

theorem refresh_cases (s : Session) (b : Value) :
    (∃ ds store, s.treeDiagnostics = .ok ds ∧ s.store.set b ds = .ok store ∧
      (s.handle (.refresh b)).result = .ok (.done true, { s with store })) ∨
    (∃ p, s.treeDiagnostics = .error (.problem p) ∧ (s.handle (.refresh b)).result = .ok (.done false, s)) ∨
    (∃ e, (s.treeDiagnostics = .error (.fault e) ∨ b.notKey? ≠ none) ∧
      (s.handle (.refresh b)).result = .error (.fault e)) := by
  rw [result_handle_refresh, result_refresh]
  cases s.treeDiagnostics with
  | error e =>
    cases e with
    | problem p => exact .inr (.inl ⟨p, rfl, rfl⟩)
    | fault f => exact .inr (.inr ⟨f, .inl rfl, rfl⟩)
  | ok ds =>
    cases hb : b.notKey? with
    | none =>
      have hset := Store.set_of_isKey s.store hb ds
      exact .inl ⟨ds, _, rfl, hset, by simp only [hset]; rfl⟩
    | some given =>
      have hset : s.store.set b ds = .error (.fault (.unhashable given)) := by
        rw [Store.set, Store.checkKey, hb]; rfl
      exact .inr (.inr ⟨_, .inr (by simp), by simp only [hset]; rfl⟩)

theorem result_handle_publish (s : Session) (b : Value) :
    (s.handle (.publish b)).result =
      if s.options.isDiagnosticProducer then (s.handle (.refresh b)).result else .ok (.done false, s) := by
  cases h : s.options.isDiagnosticProducer <;> simp [handle, publish, h]

/-! ## When a refresh publishes -/

def Unreadable (s : Session) : Prop :=
  ∃ path p, s.currentTree.result = .error (.problem (.source path p))

/-- A unit of the current tree has no name, and a message can say where. -/
def Nameless (s : Session) : Prop :=
  ∃ root within, s.currentTree.result = .ok (some root) ∧ root.FirstLost within ∧ within.range.isWritable = true

def Complete (s : Session) : Prop :=
  s.currentTree.result = .ok none ∨
    ∃ root, s.currentTree.result = .ok (some root) ∧ ∀ unit ∈ root.units, unit.HasName

theorem exists_treeDiagnostics_iff {s : Session} : (∃ ds, s.treeDiagnostics = .ok ds) ↔ s.Complete := by
  unfold treeDiagnostics Complete
  cases s.currentTree.result with
  | error e => simp
  | ok root =>
    rw [Outcome.ok_bind, Diagnostic.exists_ofTree_iff]
    cases root with
    | none => simp [Report.ofTree]
    | some root => simp [Report.exists_ofTree_iff]

theorem treeDiagnostics_problem_iff {s : Session} :
    (∃ p, s.treeDiagnostics = .error (.problem p)) ↔ s.Unreadable ∨ s.Nameless := by
  unfold treeDiagnostics Unreadable Nameless
  constructor
  · rintro ⟨p, h⟩
    rcases Outcome.bind_eq_error.mp h with h | ⟨root, hroot, h⟩
    · obtain ⟨path, q, rfl⟩ := exists_source_of_problem h
      exact .inl ⟨path, q, h⟩
    · rw [Diagnostic.ofTree_eq_error] at h
      cases root with
      | none => cases h
      | some root =>
        obtain ⟨within, hlost, he⟩ := Report.ofTree_eq_error.mp h
        refine .inr ⟨root, within, hroot, hlost, ?_⟩
        by_contra hw
        rw [nameFailure, if_neg hw] at he
        cases he
  · rintro (⟨path, q, h⟩ | ⟨root, within, hroot, hlost, hw⟩)
    · exact ⟨_, by rw [h]; rfl⟩
    · refine ⟨.nameNotFound within.kind within.range, ?_⟩
      rw [hroot, Outcome.ok_bind, Diagnostic.ofTree_eq_error]
      exact Report.ofTree_eq_error.mpr ⟨within, hlost, by rw [nameFailure, if_pos hw]⟩

theorem answers_false_iff {s : Session} {b : Value} :
    s.Answers (.refresh b) (.done false) ↔ s.Unreadable ∨ s.Nameless := by
  rw [← treeDiagnostics_problem_iff]
  constructor
  · rintro ⟨s', hs'⟩
    rcases s.refresh_cases b with ⟨_, _, _, _, h⟩ | ⟨p, hp, -⟩ | ⟨f, -, h⟩
    · rw [h] at hs'; cases hs'
    · exact ⟨p, hp⟩
    · rw [h] at hs'; cases hs'
  · rintro ⟨p, hp⟩
    rcases s.refresh_cases b with ⟨_, _, h, _⟩ | ⟨_, -, h⟩ | ⟨f, h, h'⟩
    · rw [h] at hp; cases hp
    · exact ⟨s, h⟩
    · rw [result_handle_refresh, result_refresh, hp] at h'; cases h'

theorem answers_true_iff {s : Session} {b : Value} :
    s.Answers (.refresh b) (.done true) ↔ b.notKey? = none ∧ s.Complete := by
  rw [← exists_treeDiagnostics_iff]
  constructor
  · rintro ⟨s', hs'⟩
    rcases s.refresh_cases b with ⟨ds, store, hds, hset, -⟩ | ⟨_, -, h⟩ | ⟨f, -, h⟩
    · refine ⟨?_, ds, hds⟩
      by_contra hb
      obtain ⟨given, hgiven⟩ := Option.ne_none_iff_exists'.mp hb
      rw [Store.set, Store.checkKey, hgiven] at hset
      cases hset
    · rw [h] at hs'; cases hs'
    · rw [h] at hs'; cases hs'
  · rintro ⟨hb, ds, hds⟩
    rcases s.refresh_cases b with ⟨_, store, _, _, h⟩ | ⟨_, h, -⟩ | ⟨f, h | h, -⟩
    · exact ⟨_, h⟩
    · rw [h] at hds; cases hds
    · rw [h] at hds; cases hds
    · exact absurd hb h

/-! ## One step -/

section

variable {s s' : Session} {r : Request}

theorem after_of_ok {a : Answer} (h : (s.handle r).result = .ok (a, s')) : s.after r = s' := by
  unfold after; rw [h]

theorem after_of_error {e : Failure} (h : (s.handle r).result = .error e) : s.after r = s := by
  unfold after; rw [h]

theorem confirms_of_ok {b : Bool} (h : (s.handle r).result = .ok (.done b, s')) : s.confirms r = b := by
  unfold confirms; rw [h]

theorem confirms_of_error {e : Failure} (h : (s.handle r).result = .error e) : s.confirms r = false := by
  unfold confirms; rw [h]

theorem after_of_answered {α : Type} {x : Outcome α} {f : α → Answer}
    (h : (s.handle r).result = x >>= fun a => .ok (f a, s)) : s.after r = s := by
  cases x with
  | ok a => exact after_of_ok h
  | error e => exact after_of_error h

def Request.onlyAsks : Request → Bool
  | .info | .command _ | .report | .diagnose | .get _ | .options | .namespaceName => true
  | _ => false

theorem after_of_onlyAsks (h : r.onlyAsks = true) : s.after r = s := by
  cases r with
  | info | command | report | get => exact after_of_answered (Run.result_bind ..)
  | diagnose =>
    have hresult : (s.handle .diagnose).result = s.treeDiagnostics >>= fun ds => .ok (.diagnostics ds, s) := by
      simp [handle, treeDiagnostics]
    exact after_of_answered hresult
  | options | namespaceName => rfl
  | _ => cases h

theorem after_publish (s : Session) (b : Value) :
    s.after (.publish b) = if s.options.isDiagnosticProducer then s.after (.refresh b) else s := by
  have hresult := s.result_handle_publish b
  split at hresult <;> rename_i hon
  · rw [if_pos hon, after, after, hresult]
  · rw [if_neg hon, after_of_ok hresult]

end

theorem published_put (s : Session) (b buffer : Value) (ds : List Diagnostic) :
    (s.step (.put buffer ds)).published b = if buffer.sameKey b then ds else s.published b := by
  simp only [step]
  cases h : s.store.set buffer ds with
  | ok store => exact Store.lookup_set h b
  | error e =>
    have hb : ¬ buffer.sameKey b = true := by
      intro hb
      rw [Store.set_of_isKey _ (Value.notKey?_of_sameKey hb)] at h
      cases h
    rw [if_neg hb]

theorem published_set (s : Session) (b buffer : Value) (r : Report) :
    (s.after (.set buffer r)).published b =
      match Diagnostic.ofReport r with
      | .ok ds => (s.step (.put buffer ds)).published b
      | .error _ => s.published b := by
  have hresult : (s.handle (.set buffer r)).result =
      Diagnostic.ofReport r >>= fun ds => s.store.set buffer ds >>= fun store => .ok (.nothing, { s with store }) := by
    simp [handle]
  cases hds : Diagnostic.ofReport r with
  | error e => rw [after_of_error (hresult.trans (by rw [hds]; rfl))]
  | ok ds =>
    simp only [step]
    cases hstore : s.store.set buffer ds with
    | error e => rw [after_of_error (hresult.trans (by rw [hds, Outcome.ok_bind, hstore]; rfl))]
    | ok store => rw [after_of_ok (hresult.trans (by rw [hds, Outcome.ok_bind, hstore]; rfl))]

theorem published_clear (s : Session) (b buffer : Value) :
    (s.after (.clear buffer)).published b = if buffer.sameKey b then [] else s.published b := by
  have hresult : (s.handle (.clear buffer)).result =
      s.store.clear buffer >>= fun store => .ok (.nothing, { s with store }) := by
    simp [handle]
  cases h : s.store.clear buffer with
  | ok store =>
    rw [after_of_ok (hresult.trans (by rw [h]; rfl))]
    exact Store.lookup_clear h b
  | error e =>
    have hb : ¬ buffer.sameKey b = true := by
      intro hb
      obtain ⟨store, hstore⟩ := s.store.clear_of_isKey (Value.notKey?_of_sameKey hb)
      rw [hstore] at h
      cases h
    rw [if_neg hb, after_of_error (hresult.trans (by rw [h]; rfl))]

theorem published_refresh (s : Session) (b buffer : Value) :
    (s.after (.refresh buffer)).published b = (s.written? b (.request (.refresh buffer))).getD (s.published b) := by
  rw [written?]
  rcases s.refresh_cases buffer with ⟨ds, store, htree, hset, h⟩ | ⟨p, -, h⟩ | ⟨f, -, h⟩
  · rw [after_of_ok h, confirms_of_ok h, htree]
    refine (Store.lookup_set hset b).trans ?_
    by_cases hb : buffer.sameKey b = true
    · simp [hb, Except.toOption]
    · simp [hb, published]
  · rw [after_of_ok h, confirms_of_ok h, if_neg (by simp)]; rfl
  · rw [after_of_error h, confirms_of_error h, if_neg (by simp)]; rfl

theorem published_publish (s : Session) (b buffer : Value) :
    (s.after (.publish buffer)).published b = (s.written? b (.request (.publish buffer))).getD (s.published b) := by
  have hresult := s.result_handle_publish buffer
  by_cases hon : s.options.isDiagnosticProducer = true
  · rw [if_pos hon] at hresult
    have hconfirms : s.confirms (.publish buffer) = s.confirms (.refresh buffer) := by
      unfold confirms; rw [hresult]
    rw [after_publish, if_pos hon, published_refresh, written?, written?, hconfirms]
  · rw [if_neg hon] at hresult
    rw [after_publish, if_neg hon, written?, confirms_of_ok hresult, if_neg (by simp)]; rfl

theorem published_step (s : Session) (b : Value) (e : Step) :
    (s.step e).published b = (s.written? b e).getD (s.published b) := by
  cases e with
  | change w => rfl
  | put buffer ds =>
    rw [published_put, written?]
    split <;> rfl
  | request r =>
    change (s.after r).published b = _
    cases r with
    | showTree | openFile | moveCursor => rfl
    | info | command | report | diagnose | get | options | namespaceName => rw [after_of_onlyAsks rfl]; rfl
    | set buffer r =>
      rw [published_set, written?]
      cases Diagnostic.ofReport r with
      | error e => simp [Except.toOption]
      | ok ds =>
        simp only [published_put, Except.toOption]
        split <;> rfl
    | clear buffer =>
      rw [published_clear, written?]
      split <;> rfl
    | refresh buffer => exact published_refresh s b buffer
    | publish buffer => exact published_publish s b buffer

/-! ## Every run -/

theorem published_run (s : Session) (b : Value) (steps : List Step) :
    (s.run steps).published b = (s.lastWritten? b steps).getD (s.published b) := by
  induction steps generalizing s with
  | nil => rfl
  | cons e rest ih =>
    change ((s.step e).run rest).published b = _
    -- A later write hides an earlier one, so the rest of the run is asked first.
    rw [ih, lastWritten?, published_step]
    cases (s.step e).lastWritten? b rest <;> rfl

theorem treeDiagnostics_of_no_tree {s : Session} (h : s.currentTree.result = .ok none) :
    s.treeDiagnostics = .ok [] := by
  unfold treeDiagnostics; rw [h]; rfl

/-- **A buffer holds what was last written to it**, or what it held at the start. A refresh writes when it answers yes,
and that is when the buffer can be a key and the tree is complete; it answers no when the source cannot be read or a
unit has no name. To publish is to refresh, unless the session is no producer of diagnostics. -/
theorem buffer_holds_last_write (s : Session) (b : Value) (hb : b.notKey? = none) :
    s.store.get b = .ok (s.published b) ∧
    (∀ steps, (s.run steps).store.get b = .ok ((s.lastWritten? b steps).getD (s.published b))) ∧
    (∀ (s' : Session) buffer, s'.Answers (.refresh buffer) (.done true) ↔ buffer.notKey? = none ∧ s'.Complete) ∧
    (∀ (s' : Session) buffer, s'.Answers (.refresh buffer) (.done false) ↔ s'.Unreadable ∨ s'.Nameless) ∧
    (∀ (s' : Session) buffer, (s'.handle (.publish buffer)).result =
      if s'.options.isDiagnosticProducer then (s'.handle (.refresh buffer)).result else .ok (.done false, s')) ∧
    (∀ s' : Session, s'.currentTree.result = .ok none → s'.treeDiagnostics = .ok []) := by
  refine ⟨Store.get_of_isKey _ hb, ?_, fun _ _ => answers_true_iff, fun _ _ => answers_false_iff,
    result_handle_publish, fun _ => treeDiagnostics_of_no_tree⟩
  intro steps
  rw [Store.get_of_isKey _ hb, ← published_run]
  rfl

theorem buffer_holds_last_write_set :
    (Value.text "a").notKey? = none ∧
    (run ⟨.default, installed {} {} none, .tree (some ⟨"function_definition", ⟨.origin, .origin⟩, [], []⟩), .origin, {}⟩
      [.put (.text "a") [⟨⟨.origin, .origin⟩, .error, "x", "y"⟩], .request (.clear (.text "b")),
        .request (.publish (.text "a"))]).store.get (.text "a") = .ok [⟨⟨.origin, .origin⟩, .error, "x", "y"⟩] :=
  ⟨rfl, ((buffer_holds_last_write _ (.text "a") rfl).2.1 _).trans rfl⟩

end FunctionMetrics.Session
