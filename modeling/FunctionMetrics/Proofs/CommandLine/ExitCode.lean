import FunctionMetrics.Proofs.CommandLine.Surfaces
import FunctionMetrics.Proofs.Syntax.Search

/-!
# The exit code

The code is chosen from the units that are listed. No unit above the high threshold is ever left out of the list, so
the code comes down to the source and the high threshold.
-/

namespace FunctionMetrics

/-! ## Points -/

def Position.IsWord (p : Position) : Prop := 0 ≤ p.row ∧ p.row < 2 ^ 32 ∧ 0 ≤ p.column ∧ p.column < 2 ^ 32

instance (p : Position) : Decidable p.IsWord :=
  inferInstanceAs (Decidable (0 ≤ p.row ∧ p.row < 2 ^ 32 ∧ 0 ≤ p.column ∧ p.column < 2 ^ 32))

def Range.IsWord (r : Range) : Prop := r.start.IsWord ∧ r.stop.IsWord

instance (r : Range) : Decidable r.IsWord := inferInstanceAs (Decidable (r.start.IsWord ∧ r.stop.IsWord))

theorem Range.isWritable_of_isWord {r : Range} (h : r.IsWord) : r.isWritable = true := by
  obtain ⟨⟨hrow, hrow', hcolumn, hcolumn'⟩, hrow₂, hrow₂', hcolumn₂, hcolumn₂'⟩ := h
  unfold isWritable
  rw [List.all_eq_true]
  intro n hn
  apply Number.digits?_of_lt
  all_goals
    simp only [List.mem_cons, List.not_mem_nil, or_false] at hn
    rcases hn with rfl | rfl | rfl | rfl <;> omega

theorem Measurement.fits_of_isWord {m : Measurement} (hname : m.nameRange.IsWord) (hunit : m.unitRange.IsWord) :
    m.Fits := by
  have hwords : ∀ {r : Range}, r.IsWord → ∀ n ∈ r.toList, 0 ≤ n ∧ n < 2 ^ 32 := by
    rintro r ⟨hstart, hstop⟩ n hn
    simp only [Range.toList, List.mem_cons, List.not_mem_nil, or_false] at hn
    obtain ⟨hrow, hrow', hcolumn, hcolumn'⟩ := hstart
    obtain ⟨hrow₂, hrow₂', hcolumn₂, hcolumn₂'⟩ := hstop
    rcases hn with rfl | rfl | rfl | rfl <;> omega
  intro n hn
  have hword : 0 ≤ n ∧ n < 2 ^ 32 := (List.mem_append.mp hn).elim (hwords hname n) (hwords hunit n)
  exact Number.digits?_of_lt hword.1 (by omega)

theorem Printed.isWritable_of_isWord {p : Printed} (h : p.unit.nameRange.IsWord) : p.isWritable = true := by
  obtain ⟨⟨hrow, hrow', hcolumn, hcolumn'⟩, -⟩ := h
  unfold isWritable row column
  rw [Bool.and_eq_true]
  exact ⟨Number.digits?_of_lt (by omega) (by omega), Number.digits?_of_lt (by omega) (by omega)⟩

def Node.PointsFit (root : Node) : Prop := ∀ n ∈ root.nodes, n.range.IsWord

/-- Parsers count rows and columns in 32 bits. -/
def Parsers.PointsFit (parsers : Parsers) : Prop :=
  ∀ parserOf, parsers = some parserOf → ∀ language parse, parserOf language = .ok parse → ∀ source,
    (parse source).PointsFit

/-! ## Units of a tree -/

instance (unit : Node) : Decidable unit.HasName :=
  match h : unit.findName with
  | .found name => .isTrue ⟨name, h⟩
  | .lost within => .isFalse (by rintro ⟨name, hname⟩; rw [h] at hname; cases hname)

def unitsOf (root : Option Node) : List Node := (root.map Node.units).getD []

section

variable {o : Options} {t : Thresholds} {root : Option Node} {r : Report}

theorem Report.exists_iff_hasName :
    (∃ r, ofTree root t .cyclomatic = .ok r) ↔ ∀ unit ∈ unitsOf root, unit.HasName := by
  cases root with
  | none => simp [ofTree, unitsOf]
  | some root => exact exists_ofTree_iff

theorem Report.exists_error_iff (h : ofTree root t .cyclomatic = .ok r) :
    (∃ m ∈ r, m.severity = .error) ↔ ∃ unit ∈ unitsOf root, t.high < .float (complexity unit) := by
  cases root with
  | none => cases h; simp [unitsOf]
  | some root =>
    have hrow := ofTree_eq_ok.mp h
    constructor
    · rintro ⟨m, hm, herror⟩
      obtain ⟨unit, hunit, hof⟩ := exists_of_mem_right hrow hm
      obtain ⟨name, -, rfl⟩ := Measurement.of_eq_ok.mp hof
      exact ⟨unit, hunit, severityOf_eq_error_iff.mp herror⟩
    · rintro ⟨unit, hunit, hhigh⟩
      obtain ⟨m, hm, hof⟩ := exists_of_mem_left hrow hunit
      obtain ⟨name, -, rfl⟩ := Measurement.of_eq_ok.mp hof
      exact ⟨_, hm, severityOf_eq_error_iff.mpr hhigh⟩

theorem Report.ranges_isWord {root : Node} (hroot : root.PointsFit) (h : ofTree (some root) t .cyclomatic = .ok r)
    {m : Measurement} (hm : m ∈ r) : m.nameRange.IsWord ∧ m.unitRange.IsWord := by
  obtain ⟨unit, hunit, hof⟩ := exists_of_mem_right (ofTree_eq_ok.mp h) hm
  obtain ⟨name, hname, rfl⟩ := Measurement.of_eq_ok.mp hof
  have hnodes := Node.mem_nodes_of_mem_units hunit
  have hmem := Node.findName_mem hnodes
  rw [hname] at hmem
  exact ⟨hroot name hmem, hroot unit hnodes⟩

theorem Report.problem_of_error {root : Node} (hroot : root.PointsFit) {e : Failure}
    (h : ofTree (some root) t .cyclomatic = .error e) : ∃ p, e = .problem p := by
  obtain ⟨within, ⟨before, unit, after, hunits, -, hlost⟩, rfl⟩ := ofTree_eq_error.mp h
  have hunit : unit ∈ root.units := by rw [hunits]; simp
  have hmem := Node.findName_mem (Node.mem_nodes_of_mem_units hunit)
  rw [hlost] at hmem
  unfold nameFailure
  rw [if_pos (Range.isWritable_of_isWord (hroot within hmem))]
  exact ⟨_, rfl⟩

end

namespace CommandLine

variable {w : Workspace} {args : List String} {a : DiagnosticsArguments} {o : Options} {root : Option Node} {r : Report}

/-! ## Sources and outputs -/

theorem pointsFit_of_sourceTree {path : String} {root : Node} (hw : w.parsers.PointsFit)
    (h : sourceTree w path = .ok (some root)) : root.PointsFit := by
  unfold sourceTree at h
  rw [result_current_file] at h
  split at h
  · cases h
  · obtain ⟨source, -, h⟩ := Outcome.bind_eq_ok.mp h
    unfold treeOf at h
    split at h
    case h_1 => cases h
    case h_2 parserOf hparsers =>
      obtain ⟨parse, hparse, htree⟩ := Outcome.map_eq_ok.mp h
      obtain rfl := Option.some.inj htree
      exact hw parserOf hparsers _ parse (ofLibrary_eq_ok.mp hparse) source

def CanDeliver (fs : Files) (output : Option String) : Prop := ∀ text, ∃ x, deliver fs output text = .ok x

theorem canPrint_units (hw : w.parsers.PointsFit) (htree : sourceTree w a.common.path = .ok root) {ps qs : List Printed}
    (h : Report.ofTree root o.thresholds .cyclomatic = .ok (ps.map Printed.unit)) (hqs : ∀ p ∈ qs, p ∈ ps)
    (format : OutputFormat) : canPrint format qs = true := by
  have hwords : ∀ p ∈ qs, p.unit.nameRange.IsWord ∧ p.unit.unitRange.IsWord := by
    intro p hp
    have hm : p.unit ∈ ps.map Printed.unit := List.mem_map_of_mem (hqs p hp)
    cases root with
    | none =>
      rw [Report.ofTree, Except.ok.injEq] at h
      rw [← h] at hm
      cases hm
    | some root => exact Report.ranges_isWord (pointsFit_of_sourceTree hw htree) h hm
  cases format with
  | text =>
    rw [canPrint, List.all_eq_true]
    exact fun p hp => Printed.isWritable_of_isWord (hwords p hp).1
  | json =>
    rw [canPrint, List.all_eq_true]
    exact fun p hp => decide_eq_true (Measurement.fits_of_isWord (hwords p hp).1 (hwords p hp).2)

/-! ## The code -/

theorem exitCode_eq (r : Report) : exitCode r = if ∃ m ∈ r, m.severity = .error then 2 else 0 := by
  unfold exitCode
  congr 1
  simp

theorem exitCode_listed (all : Bool) (h : Report.ofTree root o.thresholds .cyclomatic = .ok r) :
    exitCode (listed all o r) = exitCode r := by
  cases all with
  | true => rfl
  | false =>
    change exitCode (r.problematic o.low) = _
    rw [Report.problematic_eq h]
    unfold exitCode
    rw [List.any_filter]
    congr 3
    funext m
    cases m.severity <;> rfl

theorem runDiagnostics_problem (hw : w.parsers.PointsFit) (htree : sourceTree w a.common.path = .ok root) {e : Failure}
    (h : Report.ofTree root o.thresholds .cyclomatic = .error e) :
    ∃ p, (runDiagnostics w a o).result = .error (.problem p) := by
  cases root with
  | none => cases h
  | some root =>
    obtain ⟨p, rfl⟩ := Report.problem_of_error (pointsFit_of_sourceTree hw htree) h
    exact ⟨p, by rw [result_runDiagnostics, htree, Outcome.ok_bind, h]; rfl⟩

theorem runDiagnostics_code (hw : w.parsers.PointsFit) (hout : CanDeliver w.files a.output)
    (htree : sourceTree w a.common.path = .ok root) (h : Report.ofTree root o.thresholds .cyclomatic = .ok r) :
    ∃ f, (runDiagnostics w a o).result = .ok f ∧ f.code = exitCode r := by
  obtain ⟨ps, rfl⟩ := Printed.exists_of_report h
  have hprint : canPrint a.format (if a.all then ps else Printed.problems ps) = true := by
    apply canPrint_units hw htree h
    intro p hp
    split at hp
    · exact hp
    · exact (List.mem_filter.mp hp).1
  obtain ⟨x, hx⟩ := hout (render a.format a.common.path (if a.all then ps else Printed.problems ps))
  refine ⟨⟨exitCode (listed a.all o (ps.map Printed.unit)), x.1, x.2⟩, ?_, exitCode_listed a.all h⟩
  rw [result_runDiagnostics, htree, Outcome.ok_bind, h, Outcome.ok_bind, Printed.listed_units a.all ps h,
    writeReport_units, if_pos hprint, Outcome.ok_bind, hx]
  rfl

/-! ## The end of a run -/

/-- The code for a tree: one if a unit has no name, two if a score is above the high threshold, else zero. -/
def codeOf (high : Number) (root : Option Node) : Nat :=
  if ∃ unit ∈ unitsOf root, ¬ unit.HasName then 1
  else if ∃ unit ∈ unitsOf root, high < .float (complexity unit) then 2
  else 0

/-- How a run ends on a source: a source that cannot be read has the code one. -/
def endingFor (high : Number) : Outcome (Option Node) → Ending
  | .ok root => .code (codeOf high root)
  | .error (.problem _) => .code 1
  | .error (.fault f) => .fault f

theorem endingFor_congr {high high' : Number} (h : high.same high' = true) (tree : Outcome (Option Node)) :
    endingFor high tree = endingFor high' tree := by
  unfold endingFor codeOf
  simp only [Number.lt_iff_of_same h]

theorem codeOf_error {e : Failure} (h : Report.ofTree root o.thresholds .cyclomatic = .error e) :
    codeOf o.high root = 1 := by
  apply if_pos
  by_contra hall
  simp only [not_exists, not_and, not_not] at hall
  obtain ⟨r, hr⟩ := Report.exists_iff_hasName.mpr hall
  rw [h] at hr; cases hr

theorem codeOf_report (h : Report.ofTree root o.thresholds .cyclomatic = .ok r) : codeOf o.high root = exitCode r := by
  have hname : ¬ ∃ unit ∈ unitsOf root, ¬ unit.HasName := by
    simp only [not_exists, not_and, not_not]
    exact Report.exists_iff_hasName.mp ⟨r, h⟩
  rw [codeOf, if_neg hname, exitCode_eq]
  exact if_congr (Report.exists_error_iff h).symm rfl rfl

theorem endingOf_runDiagnostics (hw : w.parsers.PointsFit) (hout : CanDeliver w.files a.output) :
    endingOf (runDiagnostics w a o).result = endingFor o.high (sourceTree w a.common.path) := by
  cases htree : sourceTree w a.common.path with
  | error e =>
    rw [result_runDiagnostics, htree]
    cases e <;> rfl
  | ok root =>
    cases h : Report.ofTree root o.thresholds .cyclomatic with
    | error e =>
      obtain ⟨p, hp⟩ := runDiagnostics_problem (a := a) hw htree h
      rw [hp, endingFor, codeOf_error h]; rfl
    | ok r =>
      obtain ⟨f, hf, hcode⟩ := runDiagnostics_code hw hout htree h
      rw [hf, endingFor, codeOf_report h, ← hcode]; rfl

/-- **The exit code comes from the source and the high threshold alone.** It is one if the source cannot be read or a
unit has no name, two if a unit scores above the high threshold, and zero otherwise. So two runs on one source with one
high threshold end alike, whatever else is asked for. -/
theorem exit_code_of_source (hparse : parse args = .ok (.diagnostics a)) (ho : loadOptions w a.common = .ok o)
    (hw : w.parsers.PointsFit) (hout : CanDeliver w.files a.output) :
    (run w args).ending = endingFor o.high (sourceTree w a.common.path) ∧
    ∀ {w' args' a' o'}, parse args' = .ok (.diagnostics a') → loadOptions w' a'.common = .ok o' →
      w'.parsers.PointsFit → CanDeliver w'.files a'.output →
      sourceTree w' a'.common.path = sourceTree w a.common.path → o'.high.same o.high = true →
      (run w' args').ending = (run w args).ending := by
  have hrun : (run w args).ending = endingFor o.high (sourceTree w a.common.path) := by
    rw [(run_of_parse hparse ho).1, endingOf_runDiagnostics hw hout]
  refine ⟨hrun, ?_⟩
  intro w' args' a' o' hparse' ho' hw' hout' htree hhigh
  rw [hrun, (run_of_parse hparse' ho').1, endingOf_runDiagnostics hw' hout', htree]
  exact endingFor_congr hhigh _

def branchingWorkspace : Workspace := workspaceOf branching

theorem sourceTree_branching : sourceTree branchingWorkspace "a.py" = .ok (some branching) := sourceTree_workspaceOf _

theorem codeOf_branching : codeOf 12 (some branching) = 2 := by
  have hunits : unitsOf (some branching) = [branching] := units_branching
  have hcomplexity : complexity branching =
      .one + (Node.forest branching.children).foldl (fun sum n => sum + weightOf n.kind) .zero := by
    rw [complexity, Node.descendants_eq_forest]
  have hhigh : (12 : Number) < .float (complexity branching) := by
    rw [hcomplexity]; decide +kernel
  rw [codeOf, hunits, if_neg (by simp [branching_hasName]), if_pos ⟨branching, by simp, hhigh⟩]

theorem exit_code_of_source_branching :
    (run branchingWorkspace ["diagnostics", "a.py"]).ending = .code 2 ∧
    (run branchingWorkspace ["diagnostics", "--all", "a.py"]).ending = .code 2 := by
  have hparse : parse ["diagnostics", "a.py"] = .ok (.diagnostics { common := { path := "a.py" } }) :=
    eq_ok_of_toOption (by decide +kernel)
  have hparse' : parse ["diagnostics", "--all", "a.py"] =
      .ok (.diagnostics { common := { path := "a.py" }, all := true }) :=
    eq_ok_of_toOption (by decide +kernel)
  have ho : loadOptions branchingWorkspace { path := "a.py" } = .ok .default := rfl
  have hw : branchingWorkspace.parsers.PointsFit := by
    intro parserOf hparsers language parse hparse source
    obtain rfl := Option.some.inj hparsers
    cases hparse
    change ∀ n ∈ branching.nodes, n.range.IsWord
    rw [Node.nodes_eq_preorder]
    decide
  have hout : CanDeliver branchingWorkspace.files none := fun text => ⟨_, rfl⟩
  obtain ⟨hrun, hsame⟩ := exit_code_of_source hparse ho hw hout
  have hcode : (run branchingWorkspace ["diagnostics", "a.py"]).ending = .code 2 := by
    rw [hrun, sourceTree_branching]
    exact congrArg Ending.code codeOf_branching
  exact ⟨hcode, (hsame hparse' ho hw hout rfl (by decide)).trans hcode⟩

end CommandLine

end FunctionMetrics
