import FunctionMetrics.Diagnostic.Basic
import FunctionMetrics.Proofs.Analysis.Report

/-! # Diagnostics of a tree

A tree has diagnostics exactly when it has a report: the score of a unit can always be written. -/

namespace FunctionMetrics.Diagnostic

variable {o : Options} {root : Option Node}

theorem of_eq_ok {m : Measurement} {d : Diagnostic} :
    of m = .ok d ↔ ∃ text, m.message = .ok text ∧ d = ⟨m.nameRange, m.severity, text, publisher⟩ := by
  rw [of, Outcome.map_eq_ok]
  simp [eq_comm]

theorem ofReport_eq_ok {r : Report} {ds : List Diagnostic} :
    ofReport r = .ok ds ↔ List.Forall₂ (fun m d => of m = .ok d) r ds := Outcome.mapM_eq_ok

theorem result_ofTree (o : Options) (root : Option Node) :
    (ofTree o root).result =
      Report.ofTree root o.thresholds .cyclomatic >>= fun r => ofReport (r.problematic o.low) := by
  unfold ofTree
  rw [Run.result_bind, Report.result_logged]
  rfl

theorem exists_ofReport {t : Thresholds} {r : Report} (h : Report.ofTree root t .cyclomatic = .ok r) (low : Number) :
    ∃ ds, ofReport (r.problematic low) = .ok ds := by
  apply Outcome.mapM_ok_of_forall
  intro m hm
  obtain ⟨text, htext⟩ := Report.message_of_mem h (List.mem_filter.mp hm).1
  exact ⟨_, of_eq_ok.mpr ⟨text, htext, rfl⟩⟩

theorem exists_ofTree_iff :
    (∃ ds, (ofTree o root).result = .ok ds) ↔ ∃ r, Report.ofTree root o.thresholds .cyclomatic = .ok r := by
  rw [result_ofTree]
  constructor
  · rintro ⟨ds, h⟩
    obtain ⟨r, hr, -⟩ := Outcome.bind_eq_ok.mp h
    exact ⟨r, hr⟩
  · rintro ⟨r, hr⟩
    obtain ⟨ds, hds⟩ := exists_ofReport hr o.low
    exact ⟨ds, Outcome.bind_eq_ok.mpr ⟨r, hr, hds⟩⟩

theorem ofTree_eq_error {e : Failure} :
    (ofTree o root).result = .error e ↔ Report.ofTree root o.thresholds .cyclomatic = .error e := by
  rw [result_ofTree, Outcome.bind_eq_error]
  constructor
  · rintro (h | ⟨r, hr, h⟩)
    · exact h
    · obtain ⟨ds, hds⟩ := exists_ofReport hr o.low
      rw [hds] at h; cases h
  · exact .inl

end FunctionMetrics.Diagnostic
