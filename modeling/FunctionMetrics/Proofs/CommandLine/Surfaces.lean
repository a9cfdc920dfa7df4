import FunctionMetrics.Proofs.CommandLine.Diagnostics
import FunctionMetrics.Proofs.CommandLine.Printed
import FunctionMetrics.Proofs.Session.History

/-!
# What is printed is what is published

The command lists what is above the low threshold, and prints a severity that comes from both thresholds. As the low
one is below the high one, the list is that of the units that are more than information. The diagnostics of a session
are assembled apart from it, and show the same units in the same order.
-/

namespace FunctionMetrics

variable {o : Options} {root : Option Node} {r : Report}

/-! ## Severities -/

namespace Severity

theorem label_eq_warning_iff (v : Severity) : v.label = "WARNING" ↔ v.code = 2 := by cases v <;> decide
theorem label_eq_error_iff (v : Severity) : v.label = "ERROR" ↔ v.code = 1 := by cases v <;> decide
theorem name_eq_warning_iff (v : Severity) : v.name = "warning" ↔ v.code = 2 := by cases v <;> decide
theorem name_eq_error_iff (v : Severity) : v.name = "error" ↔ v.code = 1 := by cases v <;> decide
theorem code_eq_three_iff (v : Severity) : v.code = 3 ↔ v = .info := by cases v <;> decide

end Severity

theorem Report.problematic_eq (h : ofTree root o.thresholds .cyclomatic = .ok r) :
    r.problematic o.low = r.filter fun m => m.severity ≠ .info := by
  apply List.filter_congr
  intro m hm
  obtain ⟨unit, hunit⟩ := exists_unit_of_mem h hm
  rw [Measurement.severity_of hunit, Bool.eq_iff_iff, decide_eq_true_eq]
  exact isProblematic_iff (t := o.thresholds) o.low_lt_high

namespace Printed

/-! ## The units that are listed -/

def problems (ps : List Printed) : List Printed := ps.filter fun p => p.unit.severity ≠ .info

theorem problems_eq_label (ps : List Printed) : problems ps = ps.filter fun p => p.label ≠ "INFO" := by
  apply List.filter_congr
  intro p _
  unfold label
  cases p.unit.severity <;> rfl

theorem problems_eq_severityName (ps : List Printed) : problems ps = ps.filter fun p => p.severityName ≠ "info" := by
  apply List.filter_congr
  intro p _
  unfold severityName
  cases p.unit.severity <;> rfl

theorem problematic_units (ps : List Printed) (h : Report.ofTree root o.thresholds .cyclomatic = .ok (ps.map unit)) :
    Report.problematic (ps.map unit) o.low = (problems ps).map unit := by
  rw [Report.problematic_eq h, List.filter_map]; rfl

theorem listed_units (all : Bool) (ps : List Printed)
    (h : Report.ofTree root o.thresholds .cyclomatic = .ok (ps.map unit)) :
    CommandLine.listed all o (ps.map unit) = (if all then ps else problems ps).map unit := by
  cases all with
  | true => rfl
  | false => exact problematic_units ps h

/-! ## Diagnostics -/

def diagnostic (p : Printed) : Diagnostic := ⟨p.unit.nameRange, p.unit.severity, p.message, Diagnostic.publisher⟩

structure Agrees (p : Printed) (d : Diagnostic) : Prop where
  row : p.row = d.range.start.row + 1
  column : p.column = d.range.start.column + 1
  range : p.unit.nameRange = d.range
  message : p.message = d.message
  warning : p.label = "WARNING" ↔ d.severity.code = 2
  error : p.label = "ERROR" ↔ d.severity.code = 1
  warningName : p.severityName = "warning" ↔ d.severity.code = 2
  errorName : p.severityName = "error" ↔ d.severity.code = 1

theorem agrees_diagnostic (p : Printed) : p.Agrees p.diagnostic where
  row := rfl
  column := rfl
  range := rfl
  message := rfl
  warning := p.unit.severity.label_eq_warning_iff
  error := p.unit.severity.label_eq_error_iff
  warningName := p.unit.severity.name_eq_warning_iff
  errorName := p.unit.severity.name_eq_error_iff

theorem ofReport_units (ps : List Printed) : Diagnostic.ofReport (ps.map unit) = .ok (ps.map diagnostic) := by
  rw [Diagnostic.ofReport_eq_ok, List.forall₂_map_left_iff, List.forall₂_map_right_iff, List.forall₂_same]
  intro p _
  exact Diagnostic.of_eq_ok.mpr ⟨p.message, p.message_eq, rfl⟩

theorem code_ne_three {ps : List Printed} {d : Diagnostic} (h : d ∈ (problems ps).map diagnostic) :
    d.severity.code ≠ 3 := by
  obtain ⟨p, hp, rfl⟩ := List.mem_map.mp h
  have hinfo : p.unit.severity ≠ .info := of_decide_eq_true (List.mem_filter.mp hp).2
  exact mt p.unit.severity.code_eq_three_iff.mp hinfo

end Printed

/-! ## Publishing -/

namespace Session

variable {s : Session} {ds : List Diagnostic}

theorem treeDiagnostics_units {ps : List Printed} (hs : s.currentTree.result = .ok root)
    (h : Report.ofTree root s.options.thresholds .cyclomatic = .ok (ps.map Printed.unit)) :
    s.treeDiagnostics = .ok ((Printed.problems ps).map Printed.diagnostic) := by
  rw [treeDiagnostics, hs, Outcome.ok_bind, Diagnostic.result_ofTree, h, Outcome.ok_bind,
    Printed.problematic_units ps h, Printed.ofReport_units]

theorem refresh_of_treeDiagnostics {buffer b : Value} (h : s.treeDiagnostics = .ok ds) (hb : buffer.sameKey b = true) :
    ∃ s', (s.handle (.refresh buffer)).result = .ok (.done true, s') ∧ s'.store.get b = .ok ds := by
  rcases s.refresh_cases buffer with ⟨ds', store, hds', hset, hresult⟩ | ⟨p, hp, -⟩ | ⟨f, hf, -⟩
  · obtain rfl : ds = ds' := Except.ok.inj (h.symm.trans hds')
    refine ⟨_, hresult, ?_⟩
    rw [Store.get_of_isKey _ (Value.notKey?_of_sameKey (Value.sameKey_symm hb)), Store.lookup_set hset b, if_pos hb]
  · rw [hp] at h; cases h
  · rcases hf with hf | hf
    · rw [hf] at h; cases h
    · exact absurd (Value.notKey?_of_sameKey hb) hf

theorem answer_of_publish {buffer : Value} {s' : Session} (h : (s.handle (.publish buffer)).result = .ok (.done true, s')) :
    (s.handle (.refresh buffer)).result = .ok (.done true, s') := by
  rw [result_handle_publish] at h
  split at h
  · exact h
  · cases h

end Session

/-! ## All surfaces -/

namespace CommandLine

theorem runDiagnostics_units {w : Workspace} {a : DiagnosticsArguments} {units shown : List Printed}
    (htree : sourceTree w a.common.path = .ok root) (hout : a.output.getD "" = "")
    (h : Report.ofTree root o.thresholds .cyclomatic = .ok (units.map Printed.unit))
    (hshown : shown = if a.all then units else Printed.problems units) :
    (runDiagnostics w a o).result =
      if canPrint a.format shown then
        .ok ⟨exitCode (shown.map Printed.unit), render a.format a.common.path shown, w.files⟩
      else .error (.fault .unwritable) := by
  rw [result_runDiagnostics, htree, Outcome.ok_bind, h, Outcome.ok_bind, Printed.listed_units a.all units h, ← hshown,
    writeReport_units]
  change (if canPrint a.format shown then Except.ok _ else _) >>= _ = _
  split
  · rw [Outcome.ok_bind, deliver_of_blank hout]; rfl
  · rfl

/-- **The surfaces agree.** With a report there is one list of units. All of it is printed with `--all`; without it
those are printed that are more than information, as text and as JSON; and their diagnostics, field by field, are what
a session with the same options and the same tree publishes. Only a place with too many digits keeps a text from being
printed, and then the run ends in a fault. -/
theorem surfaces_agree (o : Options) {root : Option Node} {r : Report}
    (h : Report.ofTree root o.thresholds .cyclomatic = .ok r) :
    ∃ (units problems : List Printed) (ds : List Diagnostic),
      units.map Printed.unit = r ∧
      (problems = units.filter fun p => p.label ≠ "INFO") ∧
      (problems = units.filter fun p => p.severityName ≠ "info") ∧
      (∀ w a, sourceTree w a.common.path = .ok root → a.output.getD "" = "" →
        let shown := if a.all then units else problems
        (runDiagnostics w a o).result =
          (if canPrint a.format shown then
            .ok ⟨exitCode (shown.map Printed.unit), render a.format a.common.path shown, w.files⟩
          else .error (.fault .unwritable)) ∧
        ∀ args, parse args = .ok (.diagnostics a) → loadOptions w a.common = .ok o →
          (run w args).output = if canPrint a.format shown then render a.format a.common.path shown else "") ∧
      (∀ (s : Session) buffer b, s.options = o → s.currentTree.result = .ok root → buffer.sameKey b = true →
        s.Answers (.refresh buffer) (.done true) ∧
        (o.isDiagnosticProducer = true → s.Answers (.publish buffer) (.done true)) ∧
        ∀ request ∈ [Session.Request.refresh buffer, .publish buffer], s.Answers request (.done true) →
          (s.after request).store.get b = .ok ds) ∧
      List.Forall₂ Printed.Agrees problems ds ∧ ∀ d ∈ ds, d.severity.code ≠ 3 := by
  obtain ⟨units, rfl⟩ := Printed.exists_of_report h
  refine ⟨units, Printed.problems units, (Printed.problems units).map Printed.diagnostic, rfl,
    Printed.problems_eq_label units, Printed.problems_eq_severityName units, ?_, ?_, ?_, fun d => Printed.code_ne_three⟩
  case refine_1 =>
    intro w a htree hout shown
    have hshown : shown = if a.all then units else Printed.problems units := rfl
    have hresult := runDiagnostics_units htree hout h hshown
    refine ⟨hresult, fun args hparse ho => ?_⟩
    rw [(run_of_parse hparse ho).2, hresult]
    split <;> rfl
  case refine_2 =>
    intro s buffer b ho htree hb
    subst ho
    obtain ⟨s', hresult, hget⟩ := s.refresh_of_treeDiagnostics (Session.treeDiagnostics_units htree h) hb
    refine ⟨⟨s', hresult⟩, fun hon => ⟨s', by rw [Session.result_handle_publish, if_pos hon, hresult]⟩, ?_⟩
    intro request hrequest ⟨s'', hanswer⟩
    -- Whichever request it is, a refresh is behind the answer.
    have hrefresh : (s.handle (.refresh buffer)).result = .ok (.done true, s'') := by
      rcases List.mem_pair.mp hrequest with rfl | rfl
      · exact hanswer
      · exact Session.answer_of_publish hanswer
    rw [Session.after_of_ok hanswer]
    cases hresult.symm.trans hrefresh
    exact hget
  case refine_3 =>
    rw [List.forall₂_map_right_iff, List.forall₂_same]
    exact fun p _ => p.agrees_diagnostic

def branching : Node where
  kind := "function_definition"
  children := { kind := "identifier", text := [102] } :: List.replicate 12 { kind := "if_statement" }

theorem branching_hasName : branching.HasName :=
  ⟨{ kind := "identifier", text := [102] }, by rw [Node.findName]; rfl⟩

theorem units_branching : branching.units = [branching] := by
  rw [Node.units, Node.nodes_eq_preorder]; rfl

theorem surfaces_agree_branching :
    ∃ r, Report.ofTree (some branching) Options.default.thresholds .cyclomatic = .ok r ∧
      ∃ (units problems : List Printed) (ds : List Diagnostic), units.map Printed.unit = r ∧
        (problems = units.filter fun p => p.label ≠ "INFO") ∧ List.Forall₂ Printed.Agrees problems ds := by
  have hname : ∀ unit ∈ branching.units, unit.HasName := by
    rw [units_branching]
    intro unit hunit
    obtain rfl := List.mem_singleton.mp hunit
    exact branching_hasName
  obtain ⟨r, hr⟩ := Report.exists_ofTree_iff.mpr hname
  obtain ⟨units, problems, ds, hunits, hproblems, -, -, -, hagrees, -⟩ := surfaces_agree .default hr
  exact ⟨r, hr, units, problems, ds, hunits, hproblems, hagrees⟩

end CommandLine

end FunctionMetrics
