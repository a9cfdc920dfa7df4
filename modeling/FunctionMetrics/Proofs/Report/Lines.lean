import FunctionMetrics.Proofs.Analysis.PlainScores
import FunctionMetrics.Proofs.CommandLine.Printed
import FunctionMetrics.Proofs.Number.Numeral

/-!
# Lines that are told apart

Nothing is quoted in a line of a report, and a path or a name may hold the characters that stand between its parts. But
numbers, labels and scores hold none of these, so each of them ends at the first one behind it.
-/

namespace FunctionMetrics

open Json

/-! ## Ends of parts -/

theorem append_cons_inj {c : Char} {a b x y : List Char} (ha : c ∉ a) (hb : c ∉ b) :
    a ++ c :: x = b ++ c :: y ↔ a = b ∧ x = y := by
  constructor
  · intro h
    have hsplit := congrArg (List.splitOn c) h
    rw [List.splitOn_append_cons_self_of_not_mem ha, List.splitOn_append_cons_self_of_not_mem hb] at hsplit
    obtain rfl := (List.cons.inj hsplit).1
    exact ⟨rfl, List.tail_eq_of_cons_eq (List.append_cancel_left h)⟩
  · rintro ⟨rfl, rfl⟩
    rfl

theorem splitOn_lines {ls : List (List Char)} (h : ∀ l ∈ ls, '\n' ∉ l) :
    (ls.flatMap fun l => l ++ ['\n']).splitOn '\n' = ls ++ [[]] := by
  induction ls with
  | nil => rfl
  | cons l rest ih =>
    have hrest := ih fun l hl => h l (by simp [hl])
    rw [List.flatMap_cons, List.append_assoc, List.singleton_append,
      List.splitOn_append_cons_self_of_not_mem (h l (by simp)), hrest, List.cons_append]

/-! ## Scores -/

theorem IsPlain.isNumeral {cs : List Char} (h : IsPlain cs) : ∀ c ∈ cs, isNumeral c = true := by
  obtain ⟨negative, ds, behind, fs, hds, hbehind, rfl⟩ := h
  have hnumeral := @isNumeral_decimal negative ds behind fs [] none hds hbehind .none
  rwa [List.append_nil] at hnumeral

theorem IsScientific.isNumeral {cs : List Char} (h : IsScientific cs) : ∀ c ∈ cs, isNumeral c = true := by
  obtain ⟨negative, ds, behind, fs, es, e, hds, hbehind, hes, rfl⟩ := h
  exact isNumeral_decimal hds hbehind hes

theorem isNumeral_scoreText {x : Binary64} {text : String} (hfinite : x.isFinite = true)
    (h : scoreText (.float x) = .ok text) : ∀ c ∈ text.toList, isNumeral c = true := by
  by_cases hplain : (Number.float x).WritesPlain
  · obtain ⟨text', htext, hshape⟩ := @exists_plain_scoreText (.float x) hfinite hplain
    cases h.symm.trans htext
    exact hshape.isNumeral
  · obtain ⟨text', htext, hshape⟩ := exists_scientific_scoreText hfinite hplain
    cases h.symm.trans htext
    exact hshape.isNumeral

/-! ## Lines -/

theorem Severity.blank_not_mem_label (s : Severity) : ' ' ∉ s.label.toList ∧ '\n' ∉ s.label.toList := by
  cases s <;> decide

theorem Severity.label_inj {s s' : Severity} (h : s.label.toList = s'.label.toList) : s = s' := by
  revert h
  cases s <;> cases s' <;> decide

structure Measurement.SameLine (a b : Measurement) : Prop where
  name : a.name = b.name
  start : a.nameRange.start = b.nameRange.start
  severity : a.severity = b.severity
  message : a.message = b.message

theorem Position.ext {a b : Position} (hrow : a.row = b.row) (hcolumn : a.column = b.column) : a = b := by
  obtain ⟨row, column⟩ := a
  obtain ⟨row', column'⟩ := b
  simp_all

theorem Measurement.SameLine.line_eq {a b : Measurement} (h : SameLine a b) (path : String) :
    Report.line path a = Report.line path b := by
  unfold Report.line
  rw [h.name, h.start, h.severity, h.message]

namespace Printed

variable {path : String} {p q : Printed}

def IsScored (p : Printed) : Prop :=
  ∃ score : String, p.message = "Complexity: " ++ score ∧ ∀ c ∈ score.toList, isNumeral c = true

theorem isScored_of_mem {root : Option Node} {t : Thresholds} {r : Report}
    (h : Report.ofTree root t .cyclomatic = .ok r) (hp : p.unit ∈ r) : p.IsScored := by
  obtain ⟨unit, hunit⟩ := Report.exists_unit_of_mem h hp
  have hdescribes := Measurement.of_eq_ok_iff_describes.mp hunit
  obtain ⟨score, hscore⟩ := scoreText_of_isFinite (complexity_isFinite unit)
  have hmessage := Measurement.message_ok (m := p.unit) (by rw [hdescribes.score]; exact hscore)
  rw [p.message_eq, hdescribes.label] at hmessage
  exact ⟨score, Except.ok.inj hmessage, isNumeral_scoreText (complexity_isFinite unit) hscore⟩

theorem toList_line (path : String) (p : Printed) :
    (p.line path).toList = path.toList ++ ':' :: ((toString p.row).toList ++ ':' :: ((toString p.column).toList ++
      ':' :: ' ' :: (p.label.toList ++ ' ' :: (p.message.toList ++ ' ' :: '(' :: (p.unit.name.toList ++ [')']))))) := by
  simp [line, String.toList_append]

theorem newline_not_mem_line (hpath : '\n' ∉ path.toList) (hp : p.IsScored) (hname : '\n' ∉ p.unit.name.toList) :
    '\n' ∉ (p.line path).toList := by
  obtain ⟨score, hmessage, hnumeral⟩ := hp
  have hint : ∀ n : Int, '\n' ∉ (toString n).toList := fun n => not_mem_of_isNumeral (isNumeral_intText n) rfl
  have hrow := hint p.row
  have hcolumn := hint p.column
  have hlabel := p.unit.severity.blank_not_mem_label.2
  have hscore : '\n' ∉ score.toList := not_mem_of_isNumeral hnumeral rfl
  rw [toList_line, hmessage]
  generalize (toString p.row).toList = row at *
  generalize (toString p.column).toList = column at *
  simp [hpath, hname, hrow, hcolumn, hscore, hlabel, label]

/-- Part by part, each ends where the first mark behind it stands. -/
theorem sameLine_of_line_eq (hp : p.IsScored) (hq : q.IsScored) (h : (p.line path).toList = (q.line path).toList) :
    Measurement.SameLine p.unit q.unit := by
  obtain ⟨score, hmessage, hnumeral⟩ := hp
  obtain ⟨score', hmessage', hnumeral'⟩ := hq
  have hcolon : ∀ n : Int, ':' ∉ (toString n).toList := fun n => not_mem_of_isNumeral (isNumeral_intText n) rfl
  have hblank : ' ' ∉ score.toList := not_mem_of_isNumeral hnumeral rfl
  have hblank' : ' ' ∉ score'.toList := not_mem_of_isNumeral hnumeral' rfl
  rw [toList_line, toList_line, hmessage, hmessage', String.toList_append, String.toList_append] at h
  have hplace := (List.cons.inj (List.append_cancel_left h)).2
  obtain ⟨hrow, hplace⟩ := (append_cons_inj (hcolon _) (hcolon _)).mp hplace
  obtain ⟨hcolumn, hrest⟩ := (append_cons_inj (hcolon _) (hcolon _)).mp hplace
  obtain ⟨hlabel, hrest⟩ := (append_cons_inj p.unit.severity.blank_not_mem_label.1
    q.unit.severity.blank_not_mem_label.1).mp (List.cons.inj hrest).2
  rw [List.append_assoc, List.append_assoc] at hrest
  obtain ⟨hscore, hrest⟩ := (append_cons_inj hblank hblank').mp (List.append_cancel_left hrest)
  have hname := List.append_cancel_right (List.cons.inj hrest).2
  have hrow := intText_inj hrow
  have hcolumn := intText_inj hcolumn
  constructor
  · exact String.toList_inj.mp hname
  · unfold row at hrow
    unfold column at hcolumn
    exact Position.ext (by omega) (by omega)
  · exact Severity.label_inj hlabel
  · rw [p.message_eq, q.message_eq, hmessage, hmessage', String.toList_inj.mp hscore]

end Printed

/-! ## Texts -/

namespace Report

variable {path : String} {root root' : Option Node} {t t' : Thresholds} {r r' : Report}

theorem toText_units (path : String) (ps : List Printed) :
    toText path (ps.map Printed.unit) =
      if ps.all Printed.isWritable then .ok (String.join (ps.map fun p => p.line path ++ "\n"))
      else .error (.fault .unwritable) := CommandLine.writeReport_units .text path ps

structure IsLegible (path : String) (ps : List Printed) : Prop where
  scored : ∀ p ∈ ps, p.IsScored
  oneLine : ∀ p ∈ ps, '\n' ∉ (p.line path).toList

theorem isLegible (hpath : '\n' ∉ path.toList) (h : ofTree root t .cyclomatic = .ok r)
    (hnames : ∀ m ∈ r, '\n' ∉ m.name.toList) {ps : List Printed} (hps : ps.map Printed.unit = r) : IsLegible path ps := by
  have hmem : ∀ p ∈ ps, p.unit ∈ r := fun p hp => by rw [← hps]; exact List.mem_map_of_mem hp
  have hscored : ∀ p ∈ ps, p.IsScored := fun p hp => Printed.isScored_of_mem h (hmem p hp)
  exact ⟨hscored, fun p hp => Printed.newline_not_mem_line hpath (hscored p hp) (hnames p.unit (hmem p hp))⟩

theorem splitOn_toText {ps : List Printed} (hps : IsLegible path ps) {text : String}
    (h : toText path (ps.map Printed.unit) = .ok text) :
    text.toList.splitOn '\n' = ps.map (fun p => (p.line path).toList) ++ [[]] := by
  rw [toText_units] at h
  split at h
  · cases h
    have hlines : (String.join (ps.map fun p => p.line path ++ "\n")).toList =
        (ps.map fun p => (p.line path).toList).flatMap fun l => l ++ ['\n'] := by
      simp [String.toList_join, List.flatMap_map]
    rw [hlines]
    apply splitOn_lines
    intro l hl
    obtain ⟨p, hp, rfl⟩ := List.mem_map.mp hl
    exact hps.oneLine p hp
  · cases h

theorem toText_eq_of_sameLine (h : List.Forall₂ Measurement.SameLine r r') : toText path r = toText path r' := by
  have hlines : r.mapM (line path) = r'.mapM (line path) := by
    induction h with
    | nil => rfl
    | cons hm _ ih => rw [List.mapM_cons, List.mapM_cons, hm.line_eq path, ih]
  rw [toText, toText, hlines]

theorem forall₂_sameLine {ps qs : List Printed} (hps : ∀ p ∈ ps, p.IsScored) (hqs : ∀ q ∈ qs, q.IsScored)
    (h : ps.map (fun p => (p.line path).toList) = qs.map fun q => (q.line path).toList) :
    List.Forall₂ Measurement.SameLine (ps.map Printed.unit) (qs.map Printed.unit) := by
  rw [List.forall₂_map_left_iff, List.forall₂_map_right_iff]
  induction ps generalizing qs with
  | nil =>
    obtain rfl := List.map_eq_nil_iff.mp h.symm
    exact .nil
  | cons p ps ih =>
    obtain ⟨q, qs, rfl, hline, hrest⟩ := List.map_eq_cons_iff.mp h.symm
    refine .cons (Printed.sameLine_of_line_eq (hps p (by simp)) (hqs q (by simp)) hline.symm) ?_
    exact ih (fun p hp => hps p (by simp [hp])) (fun q hq => hqs q (by simp [hq])) hrest.symm

/-- **Equal texts have equal lines.** Where neither the path nor a name has a newline, the text of a report is one line
for each unit, in order, and each ends with a newline; there is a text exactly if the places can be written. Another
report has the same text exactly if its units have the same names, starts of names, severities and messages. -/
theorem text_tells_reports_apart (hpath : '\n' ∉ path.toList) (h : ofTree root t .cyclomatic = .ok r)
    (h' : ofTree root' t' .cyclomatic = .ok r') (hnames : ∀ m ∈ r, '\n' ∉ m.name.toList)
    (hnames' : ∀ m ∈ r', '\n' ∉ m.name.toList) :
    (∃ ps : List Printed, ps.map Printed.unit = r ∧
      ((∃ text, r.toText path = .ok text) ↔ ∀ p ∈ ps, p.isWritable = true) ∧
      ∀ text, r.toText path = .ok text →
        text.toList.splitOn '\n' = ps.map (fun p => (p.line path).toList) ++ [[]]) ∧
    ∀ text, r.toText path = .ok text → (r'.toText path = .ok text ↔ List.Forall₂ Measurement.SameLine r r') := by
  obtain ⟨ps, hps⟩ := Printed.exists_of_report h
  obtain ⟨qs, hqs⟩ := Printed.exists_of_report h'
  have hlegible := isLegible hpath h hnames hps
  have hlegible' := isLegible hpath h' hnames' hqs
  subst hps hqs
  refine ⟨⟨ps, rfl, ?_, fun text => splitOn_toText hlegible⟩, fun text htext => ⟨?_, ?_⟩⟩
  case refine_1 =>
    rw [toText_units, ← List.all_eq_true]
    split <;> simp_all
  case refine_2 =>
    intro htext'
    have hsplit := splitOn_toText hlegible htext
    rw [splitOn_toText hlegible' htext'] at hsplit
    exact forall₂_sameLine hlegible.scored hlegible'.scored (List.append_cancel_right hsplit).symm
  case refine_3 =>
    intro hsame
    rw [← toText_eq_of_sameLine hsame]
    exact htext

def functionNamed (name : String) : Node where
  kind := "function_definition"
  children := [{ kind := "identifier", text := Utf8.encode name }]

def unbranched (name : String) : Measurement where
  name
  nameRange := ⟨.origin, .origin⟩
  unitRange := ⟨.origin, .origin⟩
  score := .float .one
  severity := .info

theorem ofTree_functionNamed (name : String) :
    ofTree (some (functionNamed name)) {} .cyclomatic = .ok [unbranched name] := by
  have hfound : (functionNamed name).findName = .found { kind := "identifier", text := Utf8.encode name } := by
    rw [Node.findName]; rfl
  have hunits : (functionNamed name).units = [functionNamed name] := by
    rw [Node.units_eq_filter_preorder]; rfl
  have hbelow : ∀ n ∈ (functionNamed name).descendants, weightOf n.kind = .zero := by
    have hname : weightOf "identifier" = .zero := by decide
    rw [Node.descendants_eq_forest]
    exact List.forall_mem_singleton.mpr hname
  have hseverity : severityOf (.float .one) {} = .info := by decide
  rw [ofTree_eq_ok, hunits]
  refine .cons ?_ .nil
  rw [Measurement.of_weightless hfound hbelow, Utf8.decodeLossy_encode, hseverity]
  rfl

theorem exists_ofTree_functionNamed (name : String) :
    ∃ m, ofTree (some (functionNamed name)) {} .cyclomatic = .ok [m] ∧ m.name = name ∧ m.nameRange.start = .origin :=
  ⟨unbranched name, ofTree_functionNamed name, rfl, rfl⟩

/-- The characters between the parts of a line may stand in the path and in the names too. -/
theorem text_tells_reports_apart_marks :
    ∃ m m', ofTree (some (functionNamed "g (f)")) {} .cyclomatic = .ok [m] ∧
      ofTree (some (functionNamed "g (f) (f)")) {} .cyclomatic = .ok [m'] ∧
      ∃ text, toText "a:1 (b)" [m] = .ok text ∧ toText "a:1 (b)" [m'] ≠ .ok text := by
  obtain ⟨m, hm, hname, hstart⟩ := exists_ofTree_functionNamed "g (f)"
  obtain ⟨m', hm', hname', -⟩ := exists_ofTree_functionNamed "g (f) (f)"
  have hpath : '\n' ∉ "a:1 (b)".toList := by decide
  obtain ⟨⟨ps, hps, hexists, -⟩, hsame⟩ :=
    text_tells_reports_apart hpath hm hm' (by simp [hname]) (by simp [hname'])
  obtain ⟨p, rfl, rfl⟩ := List.map_eq_singleton_iff.mp hps
  have hwritable : p.isWritable = true := by
    unfold Printed.isWritable Printed.row Printed.column
    rw [hstart]
    decide
  obtain ⟨text, htext⟩ := hexists.mpr (by simp [hwritable])
  refine ⟨p.unit, m', hm, hm', text, htext, ?_⟩
  rw [Ne, hsame text htext, List.forall₂_cons]
  rintro ⟨hline, -⟩
  have hnames := hline.name
  rw [hname, hname'] at hnames
  exact absurd hnames (by decide)

end Report

end FunctionMetrics
