import FunctionMetrics.Proofs.Analysis.Pointed
import FunctionMetrics.Proofs.CommandLine.Answer
import FunctionMetrics.Proofs.Text.Utf8

/-!
# Lines of both commands

One command prints the line of the name of a unit, the other is asked for a line. A name lies in its unit, so a line
that is listed has a unit to show: the first one over that line, which no other unit is around.
-/

namespace FunctionMetrics

namespace Report

variable {root : Node} {t : Thresholds} {r : Report}

/-! ## Names in their units -/

theorem spansRow_name {unit : Node} {metric : Metric} {m : Measurement} (hrows : root.RowsNested)
    (hunit : unit ∈ root.nodes) (hm : Measurement.Describes t metric unit m) :
    m.unitRange.spansRow m.nameRange.start.row = true := by
  obtain ⟨name, hname, -, hrange⟩ := hm.named
  have hmem : name ∈ unit.nodes := by
    have := Node.findName_mem (Node.mem_nodes_self unit)
    rwa [hname] at this
  have hwithin := (hrows.of_mem hunit).rowsWithin hmem
  have hle := (hrows.of_mem hunit).start_le_stop hmem
  rw [hm.unitRange, hrange, Range.spansRow_iff]
  exact ⟨hwithin.1, Int.le_trans hle hwithin.2⟩

theorem spansRow_name_of_mem {metric : Metric} (hrows : root.RowsNested) (h : ofTree (some root) t metric = .ok r)
    {m : Measurement} (hm : m ∈ r) : m.unitRange.spansRow m.nameRange.start.row = true := by
  obtain ⟨unit, hunit, hof⟩ := exists_of_mem_right (ofTree_eq_ok.mp h) hm
  exact spansRow_name hrows (Node.mem_nodes_of_mem_units hunit) (Measurement.of_eq_ok_iff_describes.mp hof)

end Report

namespace CommandLine

open Text

theorem run_of_pointed {w : Workspace} {a : InfoArguments} {args : List String} {line : Int} {o : Options} {root : Node}
    {r : Report} {m : Measurement} {sheet : Popup.Sheet} (hparse : parse args = .ok (.info a))
    (hline : a.line = .value line) (ho : loadOptions w a.common = .ok o)
    (htree : sourceTree w a.common.path = .ok (some root))
    (h : Report.ofTree (some root) o.thresholds .cyclomatic = .ok r) (hm : r.containing? a.cursor = some m)
    (hsheet : Popup.sheet o.border m = .ok sheet) :
    (runCommand w (.info a)).acts = .shown m :: ((w.console sheet).toOption.map Event.printed).toList ∧
    (∀ text, w.console sheet = .ok text → (run w args).ending = .code 0 ∧ (run w args).output = text) ∧
    ∀ e, w.console sheet = .error e → (run w args).ending = .fault (.library e) := by
  have hpopup : popup w.console o (some m) = ofLibrary (w.console sheet) := Popup.shown_of_sheet hsheet w.console
  have hresult : (runCommand w (.info a)).result =
      (ofLibrary (w.console sheet)).map fun text => ⟨0, text, w.files⟩ := by
    rw [result_runCommand_eq_answer, analysed_info hline ho htree h, Outcome.ok_bind, answer, hm, hpopup]
  obtain ⟨hending, houtput⟩ := run_of_command (w := w) hparse
  rw [hresult] at hending houtput
  refine ⟨?acts, fun text htext => ?code, fun e he => ?fault⟩
  case acts =>
    rw [acts_runCommand_info ho, acts_runInfo hline htree h, hm, pointedOut, hpopup]
    cases w.console sheet <;> rfl
  case code =>
    rw [htext] at hending houtput
    exact ⟨hending, houtput⟩
  case fault =>
    rw [he] at hending
    exact hending

/-- **A listed line has a unit to show.** All units of a report are listed, each at the line of its name. Asked for that
line, with any column, the other command shows one unit and gives no notice: the listed unit, or an earlier one that is
over that line too. No unit is around the one that is shown. Its popup is one sheet, and the run goes well exactly if
the console prints this. -/
theorem info_shows_listed_line {o : Options} {root : Node} {r : Report} (hrows : root.RowsNested)
    (h : Report.ofTree (some root) o.thresholds .cyclomatic = .ok r) :
    ∃ units : List Printed, units.map Printed.unit = r ∧
      (∀ w a args, parse args = .ok (.diagnostics a) → a.all = true → loadOptions w a.common = .ok o →
        sourceTree w a.common.path = .ok (some root) → a.output.getD "" = "" →
        (run w args).output = if canPrint a.format units then render a.format a.common.path units else "") ∧
      ∀ (i : Nat) (listed : Printed), units[i]? = some listed →
        ∀ w a args, parse args = .ok (.info a) → a.line = .value listed.row → loadOptions w a.common = .ok o →
          sourceTree w a.common.path = .ok (some root) →
          ∃ (j : Nat) (x : Occurrence) (m : Measurement) (sheet : Popup.Sheet), j ≤ i ∧
            root.unitOccurrences[j]? = some x ∧ r[j]? = some m ∧
            Measurement.Describes o.thresholds .cyclomatic x.node m ∧ m.unitRange.spansRow (listed.row - 1) = true ∧
            (∀ u ∈ x.above, u.isUnit = false) ∧ Popup.sheet o.border m = .ok sheet ∧
            (runCommand w (.info a)).acts = .shown m :: ((w.console sheet).toOption.map Event.printed).toList ∧
            (∀ text, w.console sheet = .ok text → (run w args).ending = .code 0 ∧ (run w args).output = text) ∧
            ∀ e, w.console sheet = .error e → (run w args).ending = .fault (.library e) := by
  obtain ⟨units, rfl⟩ := Printed.exists_of_report h
  refine ⟨units, rfl, ?_, ?_⟩
  case refine_1 =>
    intro w a args hparse hall ho htree hout
    have hshown : units = if a.all then units else Printed.problems units := by rw [if_pos hall]
    rw [(run_of_parse hparse ho).2, runDiagnostics_units htree hout h hshown]
    split <;> rfl
  case refine_2 =>
    intro i listed hlisted w a args hparse hline ho htree
    obtain ⟨hi, hunit⟩ := List.getElem?_eq_some_iff.mp hlisted
    have hi' : i < (units.map Printed.unit).length := by rwa [List.length_map]
    have hcursor : a.cursor.row = listed.row - 1 := by simp only [InfoArguments.cursor, hline]
    have hspans : (units.map Printed.unit)[i].unitRange.spans a.cursor = true := by
      have hname := Report.spansRow_name_of_mem hrows h (List.getElem_mem hi')
      rw [List.getElem_map, hunit] at hname ⊢
      have hrow : listed.row - 1 = listed.unit.nameRange.start.row := Int.add_sub_cancel ..
      rwa [Range.spans, hcursor, hrow]
    obtain ⟨j, x, m, hji, hx, hm, hfirst, hdescribes, hmspans, habove⟩ := Report.exists_first hrows h hi' hspans
    obtain ⟨message, hmessage⟩ := Report.message_of_mem h (List.mem_of_getElem? hm)
    obtain ⟨sheet, hsheet⟩ := Popup.exists_sheet hmessage o.border
    rw [Range.spans, hcursor] at hmspans
    exact ⟨j, x, m, sheet, hji, hx, hm, hdescribes, hmspans, habove, hsheet,
      run_of_pointed hparse hline ho htree h hfirst hsheet⟩

/-! ## Two trees -/

theorem loadOptions_workspaceOf (root : Node) :
    loadOptions (workspaceOf root) { path := "a.py" } = .ok Options.default := rfl

def plainUnit (first last : Int) : Measurement where
  name := "f"
  nameRange := ⟨⟨first, 4⟩, ⟨first, 5⟩⟩
  unitRange := ⟨⟨first, 0⟩, ⟨last, 0⟩⟩
  score := .float .one
  severity := .info

theorem of_functionAt {first last : Int} {inside : List Node} (h : ∀ n ∈ Node.forest inside, weightOf n.kind = .zero) :
    Measurement.of (functionAt first last inside) Options.default.thresholds .cyclomatic =
      .ok (plainUnit first last) := by
  have hfound : (functionAt first last inside).findName =
      .found { kind := "identifier", range := ⟨⟨first, 4⟩, ⟨first, 5⟩⟩, text := [102] } := by
    rw [Node.findName]; rfl
  have hbelow : ∀ n ∈ (functionAt first last inside).descendants, weightOf n.kind = .zero := by
    have hname : weightOf "identifier" = .zero := by decide
    rw [Node.descendants_eq_forest]
    exact List.forall_mem_append.mpr ⟨List.forall_mem_singleton.mpr hname, h⟩
  have hseverity : severityOf (.float .one) Options.default.thresholds = .info := by decide
  have hname : Utf8.decodeLossy [102] = "f" := Utf8.decodeLossy_encode "f"
  rw [Measurement.of_weightless hfound hbelow, hseverity]
  change Except.ok { plainUnit first last with name := Utf8.decodeLossy [102] } = _
  rw [hname]
  rfl

theorem ofTree_nested : Report.ofTree (some nested) Options.default.thresholds .cyclomatic =
    .ok [plainUnit 0 4, plainUnit 1 2, plainUnit 2 4, plainUnit 6 8] := by
  rw [Report.ofTree_eq_ok, units_nested]
  refine .cons (of_functionAt ?_) (.cons (of_functionAt ?_) (.cons (of_functionAt ?_) (.cons (of_functionAt ?_) .nil)))
  all_goals decide

def plainSheet : Popup.Sheet := .panel "        f\n\n 1. Complexity: 1 " .rounded "dim"

theorem sheet_plainUnit (first last : Int) : Popup.sheet .rounded (plainUnit first last) = .ok plainSheet := by
  have hscore : scoreText (.float .one) = .ok "1" := eq_ok_of_toOption (by decide)
  have hmessage : (plainUnit first last).message = .ok "Complexity: 1" := by
    rw [Measurement.message, plainUnit, hscore]
    rfl
  have hbody : "\n".intercalate [Popup.center "f" (max "f".length (Popup.metricLine "Complexity: 1").length : Nat), "",
      Popup.metricLine "Complexity: 1"] = "        f\n\n 1. Complexity: 1 " := by decide
  rw [Popup.sheet_of_lines (Popup.lines_eq_ok.mpr ⟨_, hmessage, rfl⟩), plainSheet, ← hbody]
  rfl

/-- The second function is listed at the second line, where the first one, which is around it, is shown. -/
theorem info_shows_listed_line_nested :
    nested.RowsNested ∧
    (run (workspaceOf nested) ["info", "a.py", "--line", "2"]).ending = .code 0 ∧
    (run (workspaceOf nested) ["info", "a.py", "--line", "2"]).output =
      "╭────────────────────╮\n│         f          │\n│                    │\n│  1. Complexity: 1  │\n" ++
        "╰────────────────────╯\n" := by
  obtain ⟨units, hunits, -, hinfo⟩ := info_shows_listed_line (o := .default) rowsNested_nested ofTree_nested
  have hsecond : units[1]?.map Printed.unit = some (plainUnit 1 2) := by rw [← List.getElem?_map, hunits]; rfl
  obtain ⟨listed, hlisted, hunit⟩ := Option.map_eq_some_iff.mp hsecond
  have hrow : listed.row = 2 := by rw [Printed.row, hunit]; rfl
  have hparse : parse ["info", "a.py", "--line", "2"] =
      .ok (.info { common := { path := "a.py" }, line := .value 2, column := .value 0 }) :=
    eq_ok_of_toOption (by decide +kernel)
  obtain ⟨j, x, m, sheet, hj, -, hm, -, -, -, hsheet, -, hprints, -⟩ :=
    hinfo 1 listed hlisted (workspaceOf nested) _ _ hparse (by rw [hrow]) (loadOptions_workspaceOf nested)
      (sourceTree_workspaceOf nested)
  have hplain : Popup.sheet Options.default.border m = .ok plainSheet := by
    obtain rfl | rfl : j = 0 ∨ j = 1 := by omega
    · obtain rfl := Option.some.inj hm
      exact sheet_plainUnit 0 4
    · obtain rfl := Option.some.inj hm
      exact sheet_plainUnit 1 2
  obtain rfl := Except.ok.inj (hplain.symm.trans hsheet)
  exact ⟨rowsNested_nested, hprints _ (eq_ok_of_toOption (by decide +kernel))⟩

/-- Behind two joiners the first of the wide characters is counted, but it is no grapheme of its own. -/
def joinedName : String := String.ofList ([Terminal.joiner, Terminal.joiner] ++ List.replicate 39 '漢')

def joined : Node where
  kind := "function_definition"
  range := ⟨⟨0, 0⟩, ⟨1, 0⟩⟩
  children := [{ kind := "identifier", range := ⟨⟨0, 4⟩, ⟨0, 127⟩⟩, text := Utf8.encode joinedName }]

def joinedUnit : Measurement where
  name := joinedName
  nameRange := ⟨⟨0, 4⟩, ⟨0, 127⟩⟩
  unitRange := ⟨⟨0, 0⟩, ⟨1, 0⟩⟩
  score := .float .one
  severity := .info

theorem ofTree_joined : Report.ofTree (some joined) Options.default.thresholds .cyclomatic = .ok [joinedUnit] := by
  have hfound : joined.findName =
      .found { kind := "identifier", range := ⟨⟨0, 4⟩, ⟨0, 127⟩⟩, text := Utf8.encode joinedName } := by
    rw [Node.findName]; rfl
  have hunits : joined.units = [joined] := by
    rw [Node.units_eq_filter_preorder]; rfl
  have hbelow : ∀ n ∈ joined.descendants, weightOf n.kind = .zero := by
    have hname : weightOf "identifier" = .zero := by decide
    rw [Node.descendants_eq_forest]
    exact List.forall_mem_singleton.mpr hname
  have hseverity : severityOf (.float .one) Options.default.thresholds = .info := by decide
  rw [Report.ofTree_eq_ok, hunits]
  refine .cons ?_ .nil
  rw [Measurement.of_weightless hfound hbelow, Utf8.decodeLossy_encode, hseverity]
  rfl

def joinedPrinted : Printed := ⟨joinedUnit, "Complexity: 1", rfl⟩

theorem runDiagnostics_joined :
    (runDiagnostics (workspaceOf joined) { common := { path := "a.py" }, all := true } .default).result =
      .ok ⟨0, "a.py:1:5: INFO Complexity: 1 (" ++ joinedName ++ ")\n", (workspaceOf joined).files⟩ := by
  have hprint : canPrint .text [joinedPrinted] = true := by decide
  have hcode : exitCode [joinedUnit] = 0 := by decide
  have hplace : "a.py" ++ ":" ++ toString joinedPrinted.row ++ ":" ++ toString joinedPrinted.column ++ ": " ++
      joinedPrinted.label ++ " " ++ joinedPrinted.message ++ " (" = "a.py:1:5: INFO Complexity: 1 (" := by decide
  have hrender : render .text "a.py" [joinedPrinted] = "a.py:1:5: INFO Complexity: 1 (" ++ joinedName ++ ")\n" := by
    change String.join [joinedPrinted.line "a.py" ++ "\n"] = _
    rw [String.join_cons, String.join_nil, String.append_empty, Printed.line, hplace, String.append_assoc]
    rfl
  have hunits : Report.ofTree (some joined) Options.default.thresholds .cyclomatic =
      .ok ([joinedPrinted].map Printed.unit) := ofTree_joined
  have h := runDiagnostics_units (a := { common := { path := "a.py" }, all := true })
    (sourceTree_workspaceOf joined) rfl hunits rfl
  simp only [if_true] at h
  rw [if_pos hprint, hrender] at h
  rw [h]
  change Except.ok (Finish.mk (exitCode [joinedUnit]) _ _) = _
  rw [hcode]

def joinedSheet : Popup.Sheet := .panel (joinedName ++ "\n\n 1. Complexity: 1 ") .rounded "dim"

theorem toList_joinedName : joinedName.toList = [Terminal.joiner, Terminal.joiner] ++ List.replicate 39 '漢' :=
  String.toList_ofList

theorem sheet_joinedUnit : Popup.sheet .rounded joinedUnit = .ok joinedSheet := by
  have hlength : joinedName.length = 41 := by rw [← String.length_toList, toList_joinedName]; rfl
  have hline : (Popup.metricLine "Complexity: 1").length = 18 := by decide
  have hcenter : Popup.center joinedName (max joinedName.length (Popup.metricLine "Complexity: 1").length : Nat) =
      joinedName := by
    rw [hlength, hline, Popup.center, hlength]; rfl
  have hjoin : "\n".intercalate [joinedName, "", Popup.metricLine "Complexity: 1"] =
      joinedName ++ "\n\n 1. Complexity: 1 " := by
    rw [← String.toList_inj]
    simp [Popup.metricLine]
  have hlines : Popup.lines joinedUnit = .ok [joinedName, "", Popup.metricLine "Complexity: 1"] :=
    Popup.lines_eq_ok.mpr ⟨_, joinedPrinted.message_eq, by rw [← hcenter]; rfl⟩
  rw [Popup.sheet_of_lines hlines, hjoin]
  rfl

theorem console_joinedSheet : Terminal.console {} joinedSheet = .error ⟨.index, "list index out of range"⟩ := by
  have hbody : (joinedName ++ "\n\n 1. Complexity: 1 ").toList =
      [Terminal.joiner, Terminal.joiner] ++ List.replicate 39 '漢' ++ "\n\n 1. Complexity: 1 ".toList := by
    rw [String.toList_append, toList_joinedName]
  have hpanel : Terminal.panel {} (Terminal.frame .rounded) "dim" (Terminal.dropSignals
      ([Terminal.joiner, Terminal.joiner] ++ List.replicate 39 '漢' ++ "\n\n 1. Complexity: 1 ".toList)) =
      .error .short := by
    decide +kernel
  unfold Terminal.console Terminal.rows joinedSheet
  dsimp only
  rw [hbody, hpanel]
  rfl

/-- A listed line whose unit cannot be shown: where the console does not print the sheet, the run ends in its error, and
a terminal does not print this one. -/
theorem listed_line_not_shown :
    joined.RowsNested ∧
    (run (workspaceOf joined) ["diagnostics", "a.py", "--all"]).ending = .code 0 ∧
    (run (workspaceOf joined) ["diagnostics", "a.py", "--all"]).output =
      "a.py:1:5: INFO Complexity: 1 (" ++ joinedName ++ ")\n" ∧
    (∀ console e, console joinedSheet = .error e →
      (run { workspaceOf joined with console } ["info", "a.py", "--line", "1"]).ending = .fault (.library e)) ∧
    Terminal.console {} joinedSheet = .error ⟨.index, "list index out of range"⟩ := by
  have hrows : joined.RowsNested := by
    unfold Node.RowsNested
    rw [Node.nodes_eq_preorder]
    decide
  have hlist : parse ["diagnostics", "a.py", "--all"] =
      .ok (.diagnostics { common := { path := "a.py" }, all := true }) :=
    eq_ok_of_toOption (by decide +kernel)
  have hparse : parse ["info", "a.py", "--line", "1"] =
      .ok (.info { common := { path := "a.py" }, line := .value 1, column := .value 0 }) :=
    eq_ok_of_toOption (by decide +kernel)
  obtain ⟨hending, houtput⟩ := run_of_parse hlist (loadOptions_workspaceOf joined)
  rw [runDiagnostics_joined] at hending houtput
  refine ⟨hrows, hending, houtput, ?_, console_joinedSheet⟩
  intro console e he
  have hfirst : Report.containing? [joinedUnit]
      (InfoArguments.cursor { common := { path := "a.py" }, line := .value 1, column := .value 0 }) =
      some joinedUnit := rfl
  have hfault := (run_of_pointed (w := { workspaceOf joined with console }) hparse rfl (loadOptions_workspaceOf joined)
    (sourceTree_workspaceOf joined) ofTree_joined hfirst sheet_joinedUnit).2.2
  exact hfault e he

end CommandLine

end FunctionMetrics
