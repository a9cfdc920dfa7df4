import FunctionMetrics.Proofs.CommandLine.Diagnostics
import FunctionMetrics.Proofs.CommandLine.Surfaces
import FunctionMetrics.Proofs.Events
import FunctionMetrics.Proofs.Popup.Shown

/-!
# What a command answers

Both commands make a report first, from the options, the source and the analysis of it. What comes after that is the
output: the popup w.console of a unit, a notice, or a list. Nothing in it can be a problem any more.
-/

namespace FunctionMetrics

namespace Session

theorem result_info_of_report (s : Session) :
    s.info.result = s.report.result.map fun r => r.containing? s.cursor := by
  unfold info
  rw [Run.result_bind]
  cases s.report.result with
  | error e => rfl
  | ok r =>
    rw [Outcome.ok_bind, Outcome.map_ok]
    cases r.containing? s.cursor <;> rfl

theorem result_info (s : Session) :
    s.info.result =
      s.currentTree.result >>= fun root =>
      (Report.ofTree root s.options.thresholds .cyclomatic).map fun r => r.containing? s.cursor := by
  rw [result_info_of_report, CommandLine.result_report]
  cases s.currentTree.result <;> rfl

end Session

namespace CommandLine

variable {w : Workspace} {c : Command} {o : Options} {r : Report}

/-! ## Popups -/

/-- The point that the arguments name; a double dash in the place of the column stands for the first one. -/
def InfoArguments.cursor (a : InfoArguments) : Position where
  row := match a.line with
    | .blank => 0
    | .value line => line - 1
  column := match a.column with
    | .blank => 0
    | .value column => column

def popup (console : Console) (o : Options) : Option Measurement → Outcome String
  | some m => Popup.shown console o.border m
  | none => Popup.notice console Session.noUnitNotice

theorem runInfo_eq {a : InfoArguments} {line : Int} (h : a.line = .value line) (w : Workspace) (o : Options) :
    runInfo w a o =
      startSession w o a.common.path a.cursor >>= fun s =>
      s.info >>= fun m =>
      (liftM (popup w.console o m) : Run String) >>= fun text =>
      Run.emit (.printed text) >>= fun _ => pure ⟨0, text, w.files⟩ := by
  unfold runInfo InfoArguments.cursor
  rw [h]
  dsimp only
  congr 1; funext s
  congr 1; funext m
  cases m <;> rfl

theorem result_runInfo {a : InfoArguments} {line : Int} (h : a.line = .value line) (w : Workspace) (o : Options) :
    (runInfo w a o).result =
      sourceTree w a.common.path >>= fun root =>
      Report.ofTree root o.thresholds .cyclomatic >>= fun r =>
      (popup w.console o (r.containing? a.cursor)).map fun text => ⟨0, text, w.files⟩ := by
  rw [runInfo_eq h, Run.result_bind, result_startSession, Outcome.ok_bind, Run.result_bind, Session.result_info]
  change (sourceTree w a.common.path >>= _) >>= _ = _
  rw [bind_assoc]
  congr 1; funext root
  cases Report.ofTree root o.thresholds .cyclomatic with
  | error e => rfl
  | ok r =>
    rw [Outcome.map_ok, Outcome.ok_bind, Outcome.ok_bind, Run.result_bind, Run.result_liftM]
    cases popup w.console o (r.containing? a.cursor) <;> rfl

/-! ## Reports and answers -/

/-- A double dash in the place of the line is found out only after the options are loaded. -/
def checkLine : Command → Outcome Unit
  | .info a =>
    match a.line with
    | .blank => fail .lineNotNumber
    | .value _ => .ok ()
  | .diagnostics _ => .ok ()

def analysed (w : Workspace) (c : Command) : Outcome (Options × Report) := do
  let o ← loadOptions w c.common
  checkLine c
  let root ← sourceTree w c.common.path
  return (o, ← Report.ofTree root o.thresholds .cyclomatic)

def answer (w : Workspace) : Command → Options × Report → Outcome Finish
  | .info a, (o, r) => (popup w.console o (r.containing? a.cursor)).map fun text => ⟨0, text, w.files⟩
  | .diagnostics a, (o, r) =>
    writeReport a.format a.common.path (listed a.all o r) >>= fun text =>
    (deliver w.files a.output text).map fun (out, files) => ⟨exitCode (listed a.all o r), out, files⟩

theorem result_runCommand_eq_answer (w : Workspace) (c : Command) :
    (runCommand w c).result = analysed w c >>= answer w c := by
  unfold runCommand analysed
  rw [Run.result_bind, result_warnWithoutParsers, Outcome.ok_bind, Run.result_bind, Run.result_liftM, bind_assoc]
  congr 1; funext o
  cases c with
  | info a =>
    obtain ⟨common, line, column⟩ := a
    cases line with
    | blank => rfl
    | value line =>
      change (runInfo w ⟨common, .value line, column⟩ o).result = _
      rw [result_runInfo rfl, checkLine, Outcome.ok_bind, bind_assoc]
      simp only [bind_assoc, pure_bind]
      rfl
  | diagnostics a =>
    change (runDiagnostics w a o).result = _
    rw [result_runDiagnostics, checkLine, Outcome.ok_bind, bind_assoc]
    simp only [bind_assoc, pure_bind]
    rfl

theorem analysed_info {a : InfoArguments} {line : Int} {root : Option Node} (hline : a.line = .value line)
    (ho : loadOptions w a.common = .ok o) (htree : sourceTree w a.common.path = .ok root)
    (h : Report.ofTree root o.thresholds .cyclomatic = .ok r) : analysed w (.info a) = .ok (o, r) := by
  have hcheck : checkLine (.info a) = .ok () := by simp only [checkLine, hline]
  unfold analysed
  rw [Command.common, ho, Outcome.ok_bind, hcheck, Outcome.ok_bind, htree, Outcome.ok_bind, h]
  rfl

/-! ## Problems -/

theorem ofTree_of_analysed (h : analysed w c = .ok (o, r)) :
    ∃ root, Report.ofTree root o.thresholds .cyclomatic = .ok r := by
  obtain ⟨o', -, h⟩ := Outcome.bind_eq_ok.mp h
  obtain ⟨-, -, h⟩ := Outcome.bind_eq_ok.mp h
  obtain ⟨root, -, h⟩ := Outcome.bind_eq_ok.mp h
  obtain ⟨r', hr, h⟩ := Outcome.bind_eq_ok.mp h
  cases h
  exact ⟨root, hr⟩

def NoProblem {α : Type} (x : Outcome α) : Prop := ∀ p, x ≠ .error (.problem p)

theorem NoProblem.map {α β : Type} {x : Outcome α} {f : α → β} (h : NoProblem x) : NoProblem (x.map f) := by
  intro p hp
  cases x with
  | ok a => cases hp
  | error e =>
    cases hp
    exact h p rfl

theorem noProblem_ofLibrary {α : Type} (x : Except LibraryError α) : NoProblem (ofLibrary x) :=
  fun p => ofLibrary_ne_problem p

theorem noProblem_popup {root : Option Node} {t : Thresholds} (h : Report.ofTree root t .cyclomatic = .ok r)
    (console : Console) (o : Options) (p : Position) : NoProblem (popup console o (r.containing? p)) := by
  cases hm : r.containing? p with
  | none => exact noProblem_ofLibrary _
  | some m =>
    obtain ⟨message, hmessage⟩ := Report.message_of_mem h (List.mem_of_find?_eq_some hm)
    obtain ⟨s, hs⟩ := Popup.exists_sheet hmessage o.border
    rw [popup, Popup.shown_of_sheet hs]
    exact noProblem_ofLibrary _

theorem noProblem_deliver (fs : Files) (output : Option String) (text : String) :
    NoProblem (deliver fs output text) := by
  unfold deliver
  split
  case h_1 => exact fun p hp => by cases hp
  case h_2 => exact fun p hp => by cases hp
  case h_3 path _ =>
    apply NoProblem.map
    intro p hp
    unfold writeOutput at hp
    split at hp
    · cases hp
    · cases hwrite : fs.write (Path.ofText path) (Utf8.encode text) <;> rw [hwrite] at hp <;> cases hp

theorem noProblem_answer (h : analysed w c = .ok (o, r)) : NoProblem (answer w c (o, r)) := by
  obtain ⟨root, hr⟩ := ofTree_of_analysed h
  cases c with
  | info a => exact (noProblem_popup hr w.console o a.cursor).map
  | diagnostics a =>
    obtain ⟨ps, rfl⟩ := Printed.exists_of_report hr
    change NoProblem (writeReport _ _ (listed a.all o (ps.map Printed.unit)) >>= _)
    rw [Printed.listed_units a.all ps hr, writeReport_units]
    cases canPrint a.format (if a.all then ps else Printed.problems ps) with
    | true => exact (noProblem_deliver w.files a.output _).map
    | false => exact fun p hp => by cases hp

/-! ## Acts -/

theorem traced_startSession (w : Workspace) (o : Options) (path : String) (cursor : Position) :
    (startSession w o path cursor).Traced := by
  unfold startSession Session.start Session.announce
  exact .bind (Run.traced_log _ _ _) fun _ => Run.only_pure _

theorem traced_warnWithoutParsers (w : Workspace) : (warnWithoutParsers w).Traced := by
  unfold warnWithoutParsers
  split <;> simp

def pointedOut : Option Measurement → Event
  | some m => .shown m
  | none => .noticed Session.noUnitNotice

theorem acts_session_info {s : Session} (h : s.report.result = .ok r) :
    s.info.acts = [pointedOut (r.containing? s.cursor)] := by
  unfold Session.info
  rw [Run.acts_bind_of_traced s.traced_report h]
  cases r.containing? s.cursor <;> rfl

theorem acts_runInfo {a : InfoArguments} {line : Int} {root : Option Node} (hline : a.line = .value line)
    (htree : sourceTree w a.common.path = .ok root) (h : Report.ofTree root o.thresholds .cyclomatic = .ok r) :
    (runInfo w a o).acts =
      pointedOut (r.containing? a.cursor) ::
        ((popup w.console o (r.containing? a.cursor)).toOption.map Event.printed).toList := by
  let s : Session := ⟨o, w, .file a.common.path none, a.cursor, {}⟩
  have hreport : s.report.result = .ok r := by
    rw [result_report]
    exact Outcome.bind_eq_ok.mpr ⟨root, htree, h⟩
  have hinfo : s.info.result = .ok (r.containing? a.cursor) := by
    rw [Session.result_info_of_report, hreport]
    rfl
  rw [runInfo_eq hline, Run.acts_bind_of_traced (traced_startSession _ _ _ _) (result_startSession _ _ _ _),
    Run.acts_bind_of_ok hinfo, acts_session_info hreport]
  cases popup w.console o (r.containing? a.cursor) <;> rfl

theorem acts_runCommand_info {a : InfoArguments} (ho : loadOptions w a.common = .ok o) :
    (runCommand w (.info a)).acts = (runInfo w a o).acts := by
  have hload : (liftM (loadOptions w (Command.info a).common) : Run Options).result = .ok o := ho
  unfold runCommand
  rw [Run.acts_bind_of_traced (traced_warnWithoutParsers w) (result_warnWithoutParsers w),
    Run.acts_bind_of_traced (Run.only_liftM _) hload]

end CommandLine

end FunctionMetrics
