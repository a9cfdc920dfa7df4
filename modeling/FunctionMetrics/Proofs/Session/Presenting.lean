import FunctionMetrics.Proofs.Analysis.Nesting
import FunctionMetrics.Proofs.CommandLine.Answer
import FunctionMetrics.Proofs.Session.History

/-!
# What a session presents

A session presents something only where it is asked for the unit under the cursor. It then shows the first unit over
the row of the cursor, or gives notice that there is none; a call that fails presents nothing. The store has no part
in it, and is left alone.
-/

namespace FunctionMetrics

namespace Session

open CommandLine (pointedOut)

variable {s s' : Session} {m : Measurement} {e : Failure}

/-! ## One call -/

/-- Whether the unit under the cursor is asked for, directly or by the name of the command. -/
def Request.asksInfo : Request → Bool
  | .info => true
  | .command name => commands.contains name
  | _ => false

/-- What is presented for a call, by how it ends. -/
def told : Outcome (Option Measurement) → List Event
  | .ok m => [pointedOut m]
  | .error _ => []

theorem acts_info (s : Session) : s.info.acts = told s.info.result := by
  cases h : s.report.result with
  | ok r => rw [CommandLine.acts_session_info h, result_info_of_report, h, Outcome.map_ok, told]
  | error e =>
    rw [result_info_of_report, h, Outcome.map_error, told]
    unfold info
    rw [Run.acts_bind_of_error h]
    exact s.traced_report.acts_eq

theorem result_handle_of_asksInfo {r : Request} (h : r.asksInfo = true) :
    (s.handle r).result = s.info.result.map fun m => (.unit m, s) := by
  have hinfo : (s.info >>= fun m => pure (Answer.unit m, s)).result = s.info.result.map fun m => (.unit m, s) := by
    rw [Run.result_bind]
    cases s.info.result <;> rfl
  cases r with
  | info => exact hinfo
  | command name =>
    have hname : commands.contains name = true := h
    change (s.runCommand name >>= fun m => pure (Answer.unit m, s)).result = _
    rw [runCommand, if_pos hname, hinfo]
  | _ => cases h

theorem acts_handle (s : Session) (r : Request) :
    (s.handle r).acts = if r.asksInfo then told s.info.result else [] := by
  cases r with
  | info => exact (Run.acts_bind_pure _ _).trans s.acts_info
  | command name =>
    change (s.runCommand name >>= fun m => pure (Answer.unit m, s)).acts = _
    rw [Run.acts_bind_pure, runCommand, Request.asksInfo]
    split
    · exact s.acts_info
    · rfl
  | report => exact (Run.acts_bind_pure _ _).trans s.traced_report.acts_eq
  | publish buffer =>
    refine (Run.acts_bind_pure (s.publish buffer) fun p => (Answer.done p.1, p.2)).trans ?_
    unfold publish
    split
    · exact (s.traced_refresh buffer).acts_eq
    · rfl
  | refresh buffer =>
    exact (Run.acts_bind_pure (s.refresh buffer) fun p => (Answer.done p.1, p.2)).trans (s.traced_refresh buffer).acts_eq
  | diagnose =>
    have htraced : (s.handle .diagnose).Traced := by
      refine .bind (traced_current s.source s.workspace) fun root => ?_
      exact .bind (Diagnostic.traced_ofTree _ _) fun _ => Run.only_pure _
    exact htraced.acts_eq
  | get buffer => exact Run.acts_bind_pure _ _
  | set buffer report =>
    have htraced : (s.handle (.set buffer report)).Traced := by
      refine .bind (Run.only_liftM _) fun ds => ?_
      exact .bind (Run.only_liftM _) fun store => Run.only_pure _
    exact htraced.acts_eq
  | clear buffer => exact Run.acts_bind_pure _ _
  | showTree | openFile | moveCursor | options | namespaceName => rfl

/-! ## What a call ends with -/

def firstOver? (root : Node) (p : Position) : Option Node := root.units.find? fun unit => unit.range.spans p

section

variable {root : Node} {t : Thresholds} {r : Report} {p : Position}

theorem containing?_beside (h : Report.ofTree (some root) t .cyclomatic = .ok r) (p : Position) :
    Option.Rel (Measurement.Describes t .cyclomatic) (firstOver? root p) (r.containing? p) := by
  have hrow : List.Forall₂ (Measurement.Describes t .cyclomatic) root.units r :=
    (Report.ofTree_eq_ok.mp h).imp fun _ _ hof => Measurement.of_eq_ok_iff_describes.mp hof
  apply find?_beside hrow
  intro unit m hm
  rw [hm.unitRange]

theorem containing?_eq_none (h : Report.ofTree (some root) t .cyclomatic = .ok r) :
    r.containing? p = none ↔ firstOver? root p = none := by
  have hbeside := containing?_beside h p
  cases hunit : firstOver? root p <;> cases hm : r.containing? p <;> rw [hunit, hm] at hbeside <;> cases hbeside <;> simp

theorem containing?_eq_some (h : Report.ofTree (some root) t .cyclomatic = .ok r) :
    r.containing? p = some m ↔ ∃ unit, firstOver? root p = some unit ∧ Measurement.Describes t .cyclomatic unit m := by
  have hbeside := containing?_beside h p
  constructor
  · intro hm
    rw [hm] at hbeside
    cases hunit : firstOver? root p with
    | none => rw [hunit] at hbeside; cases hbeside
    | some unit =>
      rw [hunit] at hbeside
      cases hbeside with
      | some hdescribes => exact ⟨unit, rfl, hdescribes⟩
  · rintro ⟨unit, hunit, hdescribes⟩
    rw [hunit] at hbeside
    cases hm : r.containing? p with
    | none => rw [hm] at hbeside; cases hbeside
    | some m' =>
      rw [hm] at hbeside
      cases hbeside with
      | some hdescribes' =>
        -- A unit has one measurement only.
        have hof := Measurement.of_eq_ok_iff_describes.mpr hdescribes
        rw [Measurement.of_eq_ok_iff_describes.mpr hdescribes'] at hof
        rw [Except.ok.inj hof]

end

def Named (s : Session) (root : Node) : Prop :=
  s.currentTree.result = .ok (some root) ∧ ∀ unit ∈ root.units, unit.HasName

theorem result_info_eq_some :
    s.info.result = .ok (some m) ↔
      ∃ root unit, s.Named root ∧ firstOver? root s.cursor = some unit ∧
        Measurement.Describes s.options.thresholds .cyclomatic unit m := by
  rw [result_info, Outcome.bind_eq_ok]
  constructor
  · rintro ⟨root, hroot, h⟩
    obtain ⟨r, hr, hm⟩ := Outcome.map_eq_ok.mp h
    cases root with
    | none => cases hr; cases hm
    | some root =>
      obtain ⟨unit, hunit, hdescribes⟩ := (containing?_eq_some hr).mp hm
      exact ⟨root, unit, ⟨hroot, Report.exists_ofTree_iff.mp ⟨r, hr⟩⟩, hunit, hdescribes⟩
  · rintro ⟨root, unit, ⟨hroot, hnames⟩, hunit, hdescribes⟩
    obtain ⟨r, hr⟩ := Report.exists_ofTree_iff.mpr hnames
    exact ⟨some root, hroot, Outcome.map_eq_ok.mpr ⟨r, hr, (containing?_eq_some hr).mpr ⟨unit, hunit, hdescribes⟩⟩⟩

theorem result_info_eq_none :
    s.info.result = .ok none ↔
      s.currentTree.result = .ok none ∨ ∃ root, s.Named root ∧ firstOver? root s.cursor = none := by
  rw [result_info, Outcome.bind_eq_ok]
  constructor
  · rintro ⟨root, hroot, h⟩
    obtain ⟨r, hr, hm⟩ := Outcome.map_eq_ok.mp h
    cases root with
    | none => exact .inl hroot
    | some root => exact .inr ⟨root, ⟨hroot, Report.exists_ofTree_iff.mp ⟨r, hr⟩⟩, (containing?_eq_none hr).mp hm⟩
  · rintro (hroot | ⟨root, ⟨hroot, hnames⟩, hunit⟩)
    · exact ⟨none, hroot, rfl⟩
    · obtain ⟨r, hr⟩ := Report.exists_ofTree_iff.mpr hnames
      exact ⟨some root, hroot, Outcome.map_eq_ok.mpr ⟨r, hr, (containing?_eq_none hr).mpr hunit⟩⟩

theorem result_info_eq_error :
    s.info.result = .error e ↔
      s.currentTree.result = .error e ∨
      ∃ root within, s.currentTree.result = .ok (some root) ∧ root.FirstLost within ∧ e = nameFailure within := by
  rw [result_info, Outcome.bind_eq_error]
  have hmap : ∀ {root}, (Report.ofTree root s.options.thresholds .cyclomatic).map (fun r => r.containing? s.cursor) =
      .error e ↔ Report.ofTree root s.options.thresholds .cyclomatic = .error e := by
    intro root
    cases Report.ofTree root s.options.thresholds .cyclomatic <;> simp
  simp only [hmap]
  constructor
  · rintro (h | ⟨root, hroot, h⟩)
    · exact .inl h
    · cases root with
      | none => cases h
      | some root =>
        obtain ⟨within, hlost, he⟩ := Report.ofTree_eq_error.mp h
        exact .inr ⟨root, within, hroot, hlost, he⟩
  · rintro (h | ⟨root, within, hroot, hlost, he⟩)
    · exact .inl h
    · exact .inr ⟨some root, hroot, Report.ofTree_eq_error.mpr ⟨within, hlost, he⟩⟩

/-! ## Scenes -/

/-- A session without what was published in it. -/
def scene (s : Session) : Session := { s with store := {} }

def turned (s : Session) : Step → Session
  | .request (.showTree root) => { s with source := .tree root }
  | .request (.openFile path) => { s with source := .file path none }
  | .request (.moveCursor p) => { s with cursor := p }
  | .change w => { s with workspace := w }
  | _ => s

theorem result_info_congr (h : s.scene = s'.scene) : s.info.result = s'.info.result := by
  have hscene : ∀ s : Session, s.scene.info.result = s.info.result := fun _ => rfl
  rw [← hscene s, h, hscene]

theorem after_of_asksInfo {r : Request} (h : r.asksInfo = true) : s.after r = s := by
  apply after_of_onlyAsks
  cases r with
  | info | command => rfl
  | _ => cases h

theorem after_report (s : Session) : s.after .report = s := after_of_onlyAsks rfl

theorem scene_after_of_store {r : Request} {x : Outcome Store}
    (h : (s.handle r).result = x >>= fun store => .ok (.nothing, { s with store })) : (s.after r).scene = s.scene := by
  cases x with
  | ok store => rw [after_of_ok h]; rfl
  | error e => rw [after_of_error h]

theorem scene_after_refresh (s : Session) (b : Value) : (s.after (.refresh b)).scene = s.scene := by
  rcases s.refresh_cases b with ⟨ds, store, -, -, h⟩ | ⟨p, -, h⟩ | ⟨f, -, h⟩
  · rw [after_of_ok h]; rfl
  · rw [after_of_ok h]
  · rw [after_of_error h]

theorem scene_after_publish (s : Session) (b : Value) : (s.after (.publish b)).scene = s.scene := by
  rw [after_publish]
  split
  · exact scene_after_refresh s b
  · rfl

/-- What was published has no part in what a step makes of a scene, nor does a step on the store change it. -/
theorem scene_step (s : Session) (e : Step) : (s.step e).scene = s.scene.turned e := by
  cases e with
  | change => rfl
  | put buffer ds =>
    rw [step]
    cases s.store.set buffer ds <;> rfl
  | request r =>
    change (s.after r).scene = _
    cases r with
    | showTree | openFile | moveCursor => rfl
    | info | command | report | diagnose | get | options | namespaceName => rw [after_of_onlyAsks rfl]; rfl
    | set buffer report =>
      apply scene_after_of_store (x := Diagnostic.ofReport report >>= fun ds => s.store.set buffer ds)
      simp [handle]
    | clear buffer =>
      apply scene_after_of_store (x := s.store.clear buffer)
      simp [handle]
    | refresh buffer => exact scene_after_refresh s buffer
    | publish buffer => exact scene_after_publish s buffer

/-! ## Runs -/

def Step.asksInfo : Step → Bool
  | .request r => r.asksInfo
  | _ => false

/-- Whether a step has to do with what is presented: a call, or a change of the tree or the cursor. -/
def Step.matters : Step → Bool
  | .request (.showTree _) | .request (.openFile _) | .request (.moveCursor _) | .change _ => true
  | e => e.asksInfo

theorem turned_of_not_matters {e : Step} (h : e.matters = false) (s : Session) : s.turned e = s := by
  unfold turned
  split
  case h_5 => rfl
  all_goals cases h

theorem asksInfo_of_not_matters {e : Step} (h : e.matters = false) : e.asksInfo = false := by
  unfold Step.matters at h
  split at h
  case h_5 => exact h
  all_goals cases h

def stepActs (s : Session) : Step → List Event
  | .request r => (s.handle r).acts
  | _ => []

def runActs (s : Session) : List Step → List Event
  | [] => []
  | e :: rest => s.stepActs e ++ runActs (s.step e) rest

def calls (s : Session) : List Step → List (Outcome (Option Measurement))
  | [] => []
  | e :: rest => if e.asksInfo then s.info.result :: calls (s.step e) rest else calls (s.step e) rest

theorem stepActs_eq (s : Session) (e : Step) : s.stepActs e = if e.asksInfo then told s.info.result else [] := by
  cases e with
  | request r => exact s.acts_handle r
  | put | change => rfl

theorem runActs_eq (s : Session) (steps : List Step) : s.runActs steps = (s.calls steps).flatMap told := by
  induction steps generalizing s with
  | nil => rfl
  | cons e rest ih =>
    rw [runActs, calls, stepActs_eq, ih]
    split
    · rw [List.flatMap_cons]
    · rw [List.nil_append]

theorem calls_filter (h : s.scene = s'.scene) (steps : List Step) :
    s.calls steps = s'.calls (steps.filter Step.matters) := by
  induction steps generalizing s s' with
  | nil => rfl
  | cons e rest ih =>
    cases hmatters : e.matters with
    | true =>
      have hstep : (s.step e).scene = (s'.step e).scene := by rw [scene_step, scene_step, h]
      rw [List.filter_cons_of_pos hmatters, calls, calls, ih hstep, result_info_congr h]
    | false =>
      have hstep : (s.step e).scene = s'.scene := by rw [scene_step, turned_of_not_matters hmatters, h]
      rw [List.filter_cons_of_neg (by simp [hmatters]), calls, asksInfo_of_not_matters hmatters, if_neg (by simp), ih hstep]

/-- **A session presents something for its calls only.** What a run presents is what is told of the calls in it, in
their order; the steps on the store may be left out, and what was published before does not count. A call that goes
well shows the record of the first unit over the row of the cursor in the tree as it is then, or gives the notice if
there is no tree or no such unit. One that fails presents nothing: the tree cannot be had, or a unit in it has no name.
Neither a call nor a report changes the session. -/
theorem presents_for_calls_only (s : Session) :
    (∀ steps, s.runActs steps = (s.calls steps).flatMap told) ∧
    (∀ steps store, s.runActs steps = runActs { s with store } (steps.filter Step.matters)) ∧
    (∀ (s' : Session) e, s'.stepActs e = if e.asksInfo then told s'.info.result else []) ∧
    (∀ (s' : Session) r, r.asksInfo = true →
      (s'.handle r).result = s'.info.result.map (fun found => (.unit found, s')) ∧ s'.after r = s') ∧
    (∀ s' : Session, s'.after .report = s') ∧
    (∀ (s' : Session) m, s'.info.result = .ok (some m) ↔
      ∃ root unit, s'.Named root ∧ firstOver? root s'.cursor = some unit ∧
        Measurement.Describes s'.options.thresholds .cyclomatic unit m) ∧
    (∀ s' : Session, s'.info.result = .ok none ↔
      s'.currentTree.result = .ok none ∨ ∃ root, s'.Named root ∧ firstOver? root s'.cursor = none) ∧
    (∀ (s' : Session) e, s'.info.result = .error e ↔
      s'.currentTree.result = .error e ∨
      ∃ root within, s'.currentTree.result = .ok (some root) ∧ root.FirstLost within ∧ e = nameFailure within) := by
  refine ⟨s.runActs_eq, ?_, stepActs_eq, ?_, after_report, fun _ _ => result_info_eq_some,
    fun _ => result_info_eq_none, fun _ _ => result_info_eq_error⟩
  case refine_1 =>
    intro steps store
    have hscene : s.scene = scene { s with store } := rfl
    rw [runActs_eq, runActs_eq, calls_filter hscene]
  case refine_2 =>
    intro s' r h
    exact ⟨result_handle_of_asksInfo h, after_of_asksInfo h⟩

def watched : Session where
  options := .default
  workspace := installed {} {} none
  source := .tree (some (functionAt 0 4 []))

theorem presents_for_calls_only_watched :
    Request.asksInfo (.command infoCommand) = true ∧
    ∃ m, m.unitRange = ⟨⟨0, 0⟩, ⟨4, 0⟩⟩ ∧
      watched.runActs [.put (.text "a") [], .request .report, .request (.command infoCommand)] = [.shown m] := by
  obtain ⟨-, hfilter, hacts, -, -, hsome, -, -⟩ := presents_for_calls_only watched
  have hunits : (functionAt 0 4 []).units = [functionAt 0 4 []] := by
    rw [Node.units_eq_filter_preorder]
    rfl
  obtain ⟨name, hname⟩ := functionAt_hasName 0 4 []
  let m := Measurement.named (functionAt 0 4 []) name watched.options.thresholds .cyclomatic
  have hinfo : watched.info.result = .ok (some m) := by
    apply (hsome watched m).mpr
    refine ⟨functionAt 0 4 [], functionAt 0 4 [], ⟨rfl, ?_⟩, ?_, ?_⟩
    · rw [hunits]
      simp [functionAt_hasName]
    · rw [firstOver?, hunits]
      rfl
    · exact Measurement.of_eq_ok_iff_describes.mp (Measurement.of_found hname)
  refine ⟨rfl, m, rfl, ?_⟩
  calc watched.runActs [.put (.text "a") [], .request .report, .request (.command infoCommand)]
      = watched.runActs [.request (.command infoCommand)] := hfilter _ {}
    _ = watched.stepActs (.request (.command infoCommand)) := List.append_nil _
    _ = told watched.info.result := hacts watched _
    _ = [.shown m] := by rw [hinfo]; rfl

end Session

end FunctionMetrics
