import FunctionMetrics.Proofs.Outcome
import FunctionMetrics.Session

/-!
# What happens on the way

Most of a run leaves traces only: lines of the log, and parsers that are asked for. To read a source and to analyze it
leaves nothing else.
-/

namespace FunctionMetrics

namespace Event

def isTrace : Event → Bool
  | .logged _ | .asked _ | .parsed _ _ => true
  | _ => false

def isWrite : Event → Bool
  | .printed _ | .saved _ _ => true
  | _ => false

end Event

namespace Run

variable {α β : Type} {p q : Event → Bool} {x : Run α} {f : α → Run β}

theorem events_bind (x : Run α) (f : α → Run β) :
    (x >>= f).events =
      match x.result with
      | .ok a => x.events ++ (f a).events
      | .error _ => x.events := by
  change (bind x f).events = _
  unfold bind
  cases x.result <;> rfl

theorem events_of_ok {a : α} (h : x.result = .ok a) (f : α → Run β) : (x >>= f).events = x.events ++ (f a).events := by
  rw [events_bind, h]

theorem events_of_error {e : Failure} (h : x.result = .error e) (f : α → Run β) : (x >>= f).events = x.events := by
  rw [events_bind, h]

/-! ## Events of one kind -/

def Only (p : Event → Bool) (x : Run α) : Prop := ∀ e ∈ x.events, p e = true

abbrev Traced (x : Run α) : Prop := x.Only Event.isTrace

abbrev Quiet (x : Run α) : Prop := x.Only fun e => ! e.isWrite

theorem only_of_silent (h : x.events = []) : x.Only p := by
  intro e he
  rw [h] at he
  cases he

@[simp] theorem only_pure (a : α) : (pure a : Run α).Only p := only_of_silent rfl
@[simp] theorem only_liftM (x : Outcome α) : (liftM x : Run α).Only p := only_of_silent rfl

theorem only_emit {e : Event} (h : p e = true) : (emit e).Only p := by
  intro e' he'
  rw [List.mem_singleton.mp he']
  exact h

@[simp] theorem traced_log (l : Level) (c : Channel) (t : String) : (log l c t).Traced := only_emit rfl

theorem Only.bind (hx : x.Only p) (hf : ∀ a, (f a).Only p) : (x >>= f).Only p := by
  cases h : x.result with
  | error e =>
    intro e' he'
    rw [events_of_error h] at he'
    exact hx e' he'
  | ok a =>
    intro e he
    rw [events_of_ok h, List.mem_append] at he
    exact he.elim (hx e) (hf a e)

theorem Only.mono (h : x.Only p) (hpq : ∀ e, p e = true → q e = true) : x.Only q := fun e he => hpq e (h e he)

theorem Only.onProblem {handle : Problem → Run α} (hx : x.Only p) (hhandle : ∀ q, (handle q).Only p) :
    (x.onProblem handle).Only p := by
  unfold Run.onProblem
  split
  case h_1 q _ =>
    intro e he
    rcases List.mem_append.mp he with he | he
    · exact hx e he
    · exact hhandle q e he
  case h_2 => exact hx

theorem Traced.quiet (h : x.Traced) : x.Quiet := h.mono fun e he => by cases e <;> simp_all [Event.isTrace, Event.isWrite]

/-! ## Acts -/

/-- What a run does apart from its traces. -/
def acts (x : Run α) : List Event := x.events.filter fun e => ! e.isTrace

theorem Traced.acts_eq (h : x.Traced) : x.acts = [] := by
  simp only [acts, List.filter_eq_nil_iff]
  intro e he
  simp [h e he]

theorem acts_bind_of_ok {a : α} (h : x.result = .ok a) (f : α → Run β) : (x >>= f).acts = x.acts ++ (f a).acts := by
  rw [acts, events_of_ok h, List.filter_append]; rfl

theorem acts_bind_of_error {e : Failure} (h : x.result = .error e) (f : α → Run β) : (x >>= f).acts = x.acts := by
  rw [acts, events_of_error h]; rfl

theorem acts_bind_pure (x : Run α) (f : α → β) : (x >>= fun a => pure (f a)).acts = x.acts := by
  cases h : x.result with
  | ok a =>
    rw [acts_bind_of_ok h]
    exact List.append_nil _
  | error e => exact acts_bind_of_error h _

theorem acts_bind_of_traced (hx : x.Traced) {a : α} (h : x.result = .ok a) (f : α → Run β) :
    (x >>= f).acts = (f a).acts := by
  rw [acts_bind_of_ok h, hx.acts_eq, List.nil_append]

end Run

/-! ## Sources and reports -/

theorem traced_parseSource (parsers : Parsers) (source : List UInt8) (language path : String) :
    (parseSource parsers source language path).Traced := by
  cases parsers with
  | none => exact .bind (by simp) (by simp)
  | some parserOf =>
    refine .bind (Run.only_emit rfl) fun _ => .bind (Run.only_liftM _) fun parse => ?_
    exact .bind (Run.only_emit rfl) fun _ => Run.only_pure _

theorem traced_current (s : TreeSource) (w : Workspace) : (s.current w).Traced := by
  cases s with
  | tree root => exact Run.only_pure root
  | file path language =>
    refine .bind ?_ (by simp)
    unfold parseFile
    cases Language.resolve? language path with
    | none => exact .bind (by simp) (by simp)
    | some l => exact .bind (by simp) fun source => traced_parseSource w.parsers source l path

theorem Report.traced_logged (root : Option Node) (t : Thresholds) (metric : Metric) :
    (Report.logged root t metric).Traced := by
  refine .bind (Run.only_liftM _) fun r => ?_
  cases root with
  | none => exact Run.only_pure r
  | some root => exact .bind (by simp) (by simp)

theorem Diagnostic.traced_ofTree (o : Options) (root : Option Node) : (Diagnostic.ofTree o root).Traced :=
  .bind (Report.traced_logged root _ _) fun _ => Run.only_liftM _

theorem Session.traced_report (s : Session) : s.report.Traced :=
  .bind (traced_current s.source s.workspace) fun root => Report.traced_logged root _ _

theorem Session.traced_refresh (s : Session) (b : Value) : (s.refresh b).Traced := by
  have hfresh : (s.freshDiagnostics? b).Traced := by
    apply Run.Only.onProblem
    · refine .bind (traced_current s.source s.workspace) fun root => ?_
      exact .bind (Diagnostic.traced_ofTree _ _) fun _ => Run.only_pure _
    · intro q
      exact .bind (Run.traced_log _ _ _) fun _ => Run.only_pure _
  refine .bind hfresh fun ds => ?_
  cases ds with
  | none => exact Run.only_pure _
  | some ds =>
    refine .bind (Run.only_liftM _) fun store => ?_
    exact .bind (Run.traced_log _ _ _) fun _ => Run.only_pure _

theorem Session.quiet_info (s : Session) : s.info.Quiet := by
  refine .bind s.traced_report.quiet fun r => ?_
  cases r.containing? s.cursor with
  | none => exact .bind (Run.only_emit rfl) (by simp)
  | some m => exact .bind (Run.only_emit rfl) (by simp)

end FunctionMetrics
