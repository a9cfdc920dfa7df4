import FunctionMetrics.Proofs.CommandLine.Answer

/-!
# What a run leaves behind

What a run has written is read off its events, whether it came to an end or not. A command writes one time only, when
nothing can fail any more. So what it leaves is what it finishes with, and a run that fails on the way leaves nothing.
-/

namespace FunctionMetrics

namespace CommandLine

variable {w : Workspace} {args : List String} {c : Command}

/-! ## What is left -/

structure Left where
  output : String
  files : Files

def Left.after (s : Left) : Event → Left
  | .printed text => { s with output := s.output ++ text }
  | .saved path text => { s with files := (writeOutput s.files path text).toOption.getD s.files }
  | _ => s

def leftBy (fs : Files) (es : List Event) : Left := es.foldl Left.after ⟨"", fs⟩

theorem Left.foldl_after_of_quiet {es : List Event} (h : ∀ e ∈ es, (! e.isWrite) = true) (s : Left) :
    es.foldl after s = s := by
  induction es with
  | nil => rfl
  | cons e rest ih =>
    have he : s.after e = s := by
      have hwrite := h e (by simp)
      cases e with
      | printed | saved => cases hwrite
      | logged | asked | parsed | shown | noticed => rfl
    rw [List.foldl_cons, he]
    exact ih fun e' he' => h e' (by simp [he'])

/-- A run has written what it finishes with, or nothing if it fails. -/
structure Honest (fs : Files) (x : Run Finish) : Prop where
  finished : ∀ f, x.result = .ok f → leftBy fs x.events = ⟨f.output, f.files⟩
  failed : ∀ e, x.result = .error e → x.Quiet

section

variable {fs : Files} {α : Type} {x : Run α} {f : α → Run Finish}

theorem honest_of_error {y : Run Finish} {e : Failure} (h : y.result = .error e) (hy : y.Quiet) : Honest fs y where
  finished finish hfinish := by rw [h] at hfinish; cases hfinish
  failed _ _ := hy

/-- What was done without a write does not count for what is left. -/
theorem Honest.bind (hx : x.Quiet) (hf : ∀ a, x.result = .ok a → Honest fs (f a)) : Honest fs (x >>= f) := by
  cases h : x.result with
  | error e =>
    have hresult : (x >>= f).result = .error e := by rw [Run.result_bind, h]; rfl
    apply honest_of_error hresult
    intro e' he'
    rw [Run.events_of_error h] at he'
    exact hx e' he'
  | ok a =>
    have hresult : (x >>= f).result = (f a).result := by rw [Run.result_bind, h]; rfl
    constructor
    · intro finish hfinish
      rw [Run.events_of_ok h, leftBy, List.foldl_append, Left.foldl_after_of_quiet hx]
      exact (hf a h).finished finish (hresult.symm.trans hfinish)
    · intro e he e' he'
      rw [Run.events_of_ok h] at he'
      exact (List.mem_append.mp he').elim (hx e') ((hf a h).failed e (hresult.symm.trans he) e')

theorem honest_printed (code : Nat) (text : String) :
    Honest fs (Run.emit (.printed text) >>= fun _ => pure ⟨code, text, fs⟩) where
  finished f hf := by
    cases hf
    change (⟨"" ++ text, fs⟩ : Left) = _
    rw [String.empty_append]
  failed e he := by cases he

theorem honest_saved (code : Nat) {path text : String} {fs' : Files} (h : writeOutput fs path text = .ok fs') :
    Honest fs (Run.emit (.saved path text) >>= fun _ => pure ⟨code, "", fs'⟩) where
  finished f hf := by
    cases hf
    change (⟨"", (writeOutput fs path text).toOption.getD fs⟩ : Left) = _
    rw [h]; rfl
  failed e he := by cases he

end

/-! ## Commands -/

theorem honest_runInfo (w : Workspace) (a : InfoArguments) (o : Options) : Honest w.files (runInfo w a o) := by
  unfold runInfo
  split
  case h_1 => exact honest_of_error rfl (Run.only_of_silent rfl)
  case h_2 line _ =>
    dsimp only
    apply Honest.bind (traced_startSession _ _ _ _).quiet
    intro s _
    apply Honest.bind s.quiet_info
    intro m _
    cases m with
    | none =>
      apply Honest.bind (Run.only_liftM _)
      exact fun text _ => honest_printed 0 text
    | some m =>
      apply Honest.bind (Run.only_liftM _)
      exact fun text _ => honest_printed 0 text

theorem honest_runDiagnostics (w : Workspace) (a : DiagnosticsArguments) (o : Options) :
    Honest w.files (runDiagnostics w a o) := by
  unfold runDiagnostics
  apply Honest.bind (traced_startSession _ _ _ _).quiet
  intro s _
  apply Honest.bind s.traced_report.quiet
  intro r _
  apply Honest.bind (Run.only_liftM _)
  intro text _
  split
  case h_1 => exact honest_printed _ text
  case h_2 => exact honest_printed _ text
  case h_3 path _ =>
    apply Honest.bind (Run.only_liftM _)
    exact fun fs hfs => honest_saved _ hfs

theorem honest_runCommand (w : Workspace) (c : Command) : Honest w.files (runCommand w c) := by
  unfold runCommand
  apply Honest.bind (traced_warnWithoutParsers w).quiet
  intro _ _
  apply Honest.bind (Run.only_liftM _)
  intro o _
  cases c with
  | info a => exact honest_runInfo w a o
  | diagnostics a => exact honest_runDiagnostics w a o

/-! ## The end of a run -/

theorem code_ne_one {f : Finish} {x : Options × Report} (h : answer w c x = .ok f) : f.code ≠ 1 := by
  cases c with
  | info a =>
    obtain ⟨text, -, rfl⟩ := Outcome.map_eq_ok.mp h
    exact Nat.zero_ne_one
  | diagnostics a =>
    obtain ⟨text, -, h⟩ := Outcome.bind_eq_ok.mp h
    obtain ⟨⟨out, files⟩, -, rfl⟩ := Outcome.map_eq_ok.mp h
    change exitCode _ ≠ 1
    unfold exitCode
    split <;> decide

theorem run_eq_finish (h : parse args = .ok c) : run w args = finish w c.common.verbose (runCommand w c) := by
  unfold run
  rw [h]

/-- **A run that fails leaves nothing.** What a run leaves on the terminal and in the files is what it wrote. It ends
with one exactly if its options, its source or the analysis are a problem. Then, and in a fault too, it has written
nothing at all: there is no output, and every file is as it was. -/
theorem failed_run_leaves_nothing (hparse : parse args = .ok c) :
    leftBy w.files (runCommand w c).events = ⟨(run w args).output, (run w args).files⟩ ∧
    ((run w args).ending = .code 1 ↔ ∃ p, analysed w c = .error (.problem p)) ∧
    ((run w args).ending = .code 1 ∨ (∃ f, (run w args).ending = .fault f) →
      (runCommand w c).Quiet ∧ (run w args).output = "" ∧ (run w args).files = w.files) := by
  have hhonest := honest_runCommand w c
  have hresult := result_runCommand_eq_answer w c
  rw [run_eq_finish hparse]
  cases h : (runCommand w c).result with
  | ok f =>
    have hleft := hhonest.finished f h
    obtain ⟨x, hx, hf⟩ := Outcome.bind_eq_ok.mp (hresult.symm.trans h)
    have hcode := code_ne_one hf
    unfold finish
    rw [h]
    refine ⟨hleft, ?_, ?_⟩
    · simp [hx, hcode]
    · simp [hcode]
  | error e =>
    have hquiet := hhonest.failed e h
    have hleft : leftBy w.files (runCommand w c).events = ⟨"", w.files⟩ := Left.foldl_after_of_quiet hquiet _
    have herror : ∀ p, e = .problem p ↔ analysed w c = .error (.problem p) := by
      intro p
      rcases Outcome.bind_eq_error.mp (hresult.symm.trans h) with he | ⟨⟨o, r⟩, hx, he⟩
      · simp [he]
      · have hne := noProblem_answer hx p
        rw [he] at hne
        simpa [hx] using hne
    unfold finish
    rw [h]
    cases e with
    | problem p => exact ⟨hleft, ⟨fun _ => ⟨p, (herror p).mp rfl⟩, fun _ => rfl⟩, fun _ => ⟨hquiet, rfl, rfl⟩⟩
    | fault f =>
      have hnone : ¬ ∃ p, analysed w c = .error (.problem p) := by simp [← herror]
      exact ⟨hleft, by simp [hnone], fun _ => ⟨hquiet, rfl, rfl⟩⟩

def halfNamed : Node where
  kind := "module"
  children := [
    { kind := "function_definition", children := [{ kind := "identifier", text := [102] }] },
    { kind := "function_definition" }]

def halfNamedWorkspace : Workspace :=
  installed {} { contents := [(["a.py"], []), (["out.txt"], [111, 108, 100])] } (some fun _ => .ok fun _ => halfNamed)

theorem analysed_halfNamed (a : DiagnosticsArguments) (h : a.common = { path := "a.py" }) :
    ∃ p, analysed halfNamedWorkspace (.diagnostics a) = .error (.problem p) := by
  have htree : sourceTree halfNamedWorkspace "a.py" = .ok (some halfNamed) := sourceTree_first rfl rfl
  have hfound : Node.findName { kind := "function_definition", children := [{ kind := "identifier", text := [102] }] } =
      .found { kind := "identifier", text := [102] } := by
    rw [Node.findName]; rfl
  have hlost : Node.findName { kind := "function_definition" } = .lost { kind := "function_definition" } := by
    rw [Node.findName]; rfl
  have hunits : halfNamed.units = halfNamed.children := by
    rw [Node.units, Node.nodes_eq_preorder]; rfl
  have hreport : Report.ofTree (some halfNamed) Options.default.thresholds .cyclomatic =
      .error (.problem (.nameNotFound "function_definition" ⟨.origin, .origin⟩)) := by
    rw [Report.ofTree_some, hunits]
    change [_, _].mapM _ = _
    rw [List.mapM_cons, Measurement.of_found hfound, List.mapM_cons, Measurement.of_lost hlost]
    rfl
  refine ⟨.nameNotFound "function_definition" ⟨.origin, .origin⟩, ?_⟩
  unfold analysed
  rw [Command.common, h, checkLine, htree]
  change (Report.ofTree (some halfNamed) Options.default.thresholds .cyclomatic >>= _) = _
  rw [hreport]; rfl

theorem failed_run_leaves_nothing_halfNamed :
    (run halfNamedWorkspace ["diagnostics", "a.py", "--output", "out.txt"]).ending = .code 1 ∧
    (run halfNamedWorkspace ["diagnostics", "a.py", "--output", "out.txt"]).files = halfNamedWorkspace.files := by
  have hparse : parse ["diagnostics", "a.py", "--output", "out.txt"] =
      .ok (.diagnostics { common := { path := "a.py" }, output := some "out.txt" }) :=
    eq_ok_of_toOption (by decide +kernel)
  obtain ⟨-, hone, hnothing⟩ := failed_run_leaves_nothing (w := halfNamedWorkspace) hparse
  have hcode := hone.mpr (analysed_halfNamed _ rfl)
  exact ⟨hcode, (hnothing (.inl hcode)).2.2⟩

end CommandLine

end FunctionMetrics
