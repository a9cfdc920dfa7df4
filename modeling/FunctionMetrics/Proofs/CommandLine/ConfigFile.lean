import FunctionMetrics.Proofs.CommandLine.Effects
import FunctionMetrics.Proofs.Options.Documents
import FunctionMetrics.Proofs.Text.Utf8

/-!
# Files of options that cannot be read

What stands at the path of a file of options decides whether it can be read: a file that is not there is told, and so is
one that its parser refuses. But a directory, a file that the system does not give and bytes that spell no text end in a
fault.
-/

namespace FunctionMetrics

namespace Files

variable {fs : Files} {names place : List String}

/-! ## Directories -/

theorem exists?_of_follow {parts : List String} (hnames : fs.exists? names = true)
    (h : fs.follow names parts = .ok place) : fs.exists? place = true := by
  induction parts generalizing names with
  | nil =>
    cases h
    exact hnames
  | cons part rest ih =>
    rw [follow] at h
    cases henter : fs.enter names part with
    | error e =>
      rw [henter] at h
      cases h
    | ok next =>
      rw [henter] at h
      change (if fs.exists? next then fs.follow next rest else .error .notFound) = _ at h
      split_ifs at h with hnext
      exact ih hnext h

theorem exists?_startOf (fs : Files) (p : Path) : fs.exists? (fs.startOf p) = true := by
  unfold exists? startOf
  split <;> simp [isDirectory]

theorem isDirectory_of_resolve {p : Path} (h : fs.resolve p = .ok names) (hnone : fs.bytesAt? names = none) :
    fs.isDirectory names = true := by
  unfold resolve at h
  split at h
  case isTrue => cases h
  case isFalse =>
    have hexists := exists?_of_follow (exists?_startOf fs p) h
    simpa [exists?, hnone] using hexists

end Files

namespace Options

variable {yaml : Yaml.Reader} {fs : Files} {path text : String} {v : Value}

/-! ## What stands at a path -/

inductive Standing
  | absent
  /-- The system does not give what is there. -/
  | sealed (problem : FileProblem)
  | directory
  | file (bytes : List UInt8)
deriving DecidableEq, Repr

/-- What stands at a path; a path with a null character names nothing. -/
def standing (fs : Files) (path : String) : Standing :=
  if ! isUsablePath path then .absent
  else match fs.resolve (Path.ofText path) with
    | .error e => if e.isAbsence then .absent else .sealed e
    | .ok names =>
      match fs.refusal? .read names with
      | some e => .sealed e
      | none =>
        match fs.bytesAt? names with
        | some bytes => .file bytes
        | none => if fs.isDirectory names then .directory else .absent

theorem readText_eq (fs : Files) (path : String) :
    readText fs path =
      match standing fs path with
      | .absent => refuseConfig (.missing path)
      | .sealed p => fail (.file p (Path.ofText path).text)
      | .directory => fail (.file .isADirectory (Path.ofText path).text)
      | .file bytes => textOf bytes := by
  unfold readText standing
  split
  case isTrue => rfl
  case isFalse =>
    dsimp only
    cases hplace : fs.resolve (Path.ofText path) with
    | error e => cases habsence : e.isAbsence <;> simp [habsence]
    | ok names =>
      have hread : fs.read (Path.ofText path) =
          fs.allow .read names >>= fun _ =>
            match fs.bytesAt? names with
            | some bytes => .ok bytes
            | none => .error .isADirectory := by
        rw [Files.read, hplace]
        rfl
      rw [hread, Files.allow]
      cases hrefusal : fs.refusal? .read names with
      | some e => simp [hrefusal, bind, Except.bind]
      | none =>
        cases hbytes : fs.bytesAt? names with
        | some bytes => simp [hrefusal, hbytes, bind, Except.bind]
        | none => simp [hrefusal, hbytes, bind, Except.bind, Files.isDirectory_of_resolve hplace hbytes]

/-! ## Texts -/

theorem textOf_encode (text : String) : textOf (Utf8.encode text) = .ok (unified text) := by
  unfold textOf
  rw [Utf8.decode_eq_ok.mpr rfl]

theorem textOf_of_no_text {bytes : List UInt8} (h : ∀ text, bytes ≠ Utf8.encode text) :
    ∃ e, textOf bytes = fail (.notText e) := by
  unfold textOf
  cases hdecode : Utf8.decode bytes with
  | error e => exact ⟨e, rfl⟩
  | ok text => exact absurd (Utf8.decode_eq_ok.mp hdecode) (h text)

/-- The parser of a file's format makes a value of a text or refuses it by an error of its own. -/
def ParserAnswers (yaml : Yaml.Reader) (path text : String) : Prop :=
  (IsJsonPath path → ∀ n, Json.read text ≠ .error (.longInteger n)) ∧
  (¬ IsJsonPath path → ∀ e, yaml text ≠ .error (.stopped e))

theorem isTold_readJson : IsTold (readJson path text) ↔ ∀ n, Json.read text ≠ .error (.longInteger n) := by
  unfold readJson
  split <;> simp_all

theorem isTold_readYaml : IsTold (readYaml yaml path text) ↔ ∀ e, yaml text ≠ .error (.stopped e) := by
  unfold readYaml
  split <;> simp_all

theorem isTold_entriesOf : IsTold (entriesOf path v) := by
  unfold entriesOf
  split <;> simp

theorem isTold_readEntries (htext : readText fs path = .ok text) :
    IsTold (readEntries yaml fs path) ↔ ParserAnswers yaml path text := by
  unfold ParserAnswers
  by_cases hjson : IsJsonPath path
  · rw [readEntries_json hjson htext, isTold_bind, isTold_readJson]
    simp [hjson, isTold_entriesOf]
  · rw [readEntries_yaml hjson htext, isTold_bind, isTold_readYaml]
    simp [hjson, isTold_entriesOf]

/-! ## Settings -/

theorem readSettings_of_error {e : Failure} (hpath : path ≠ "") (h : readText fs path = .error e) :
    readSettings yaml fs (some path) = .error e := by
  rw [readSettings_some hpath, readEntries, h]
  rfl

theorem not_isTold_of_fault {f : Fault} (hpath : path ≠ "") (h : readText fs path = fail f) :
    ¬ IsTold (readSettings yaml fs (some path)) := by
  rw [readSettings_of_error hpath h]
  exact not_isTold_fail f

theorem readSettings_of_malformed (hpath : path ≠ "") (htext : readText fs path = .ok text) :
    (IsJsonPath path → ∀ e, Json.read text = .error e → (∀ n, e ≠ .longInteger n) →
      readSettings yaml fs (some path) = refuseConfig (.malformed path e.message)) ∧
    (¬ IsJsonPath path → ∀ reason, yaml text = .error (.malformed reason) →
      readSettings yaml fs (some path) = refuseConfig (.malformed path reason)) := by
  rw [readSettings_some hpath]
  constructor
  · intro hjson e hread he
    rw [readEntries_json hjson htext, readJson, hread]
    cases e with
    | longInteger n => exact absurd rfl (he n)
    | _ => rfl
  · intro hyaml reason hread
    rw [readEntries_yaml hyaml htext, readYaml, hread]
    rfl

theorem isTold_readSettings (hpath : path ≠ "") :
    IsTold (readSettings yaml fs (some path)) ↔
      standing fs path = .absent ∨
      ∃ text, standing fs path = .file (Utf8.encode text) ∧
        ParserAnswers yaml path (unified text) := by
  have htext := readText_eq fs path
  cases hstanding : standing fs path with
  | absent =>
    rw [hstanding] at htext
    rw [readSettings_of_error hpath htext]
    exact iff_of_true (isTold_refuseConfig (.missing path)) (.inl rfl)
  | sealed p =>
    rw [hstanding] at htext
    exact iff_of_false (not_isTold_of_fault hpath htext) (by simp)
  | directory =>
    rw [hstanding] at htext
    exact iff_of_false (not_isTold_of_fault hpath htext) (by simp)
  | file bytes =>
    rw [hstanding] at htext
    simp only [Standing.file.injEq, reduceCtorEq, false_or]
    constructor
    · intro h
      by_cases hspells : ∃ text, bytes = Utf8.encode text
      · obtain ⟨text, rfl⟩ := hspells
        rw [readSettings_some hpath, isTold_readEntries (htext.trans (textOf_encode text))] at h
        exact ⟨text, rfl, h⟩
      · obtain ⟨e, he⟩ := textOf_of_no_text fun text h => hspells ⟨text, h⟩
        exact absurd h (not_isTold_of_fault hpath (htext.trans he))
    · rintro ⟨text, rfl, h⟩
      rwa [readSettings_some hpath, isTold_readEntries (htext.trans (textOf_encode text))]

end Options

namespace CommandLine

open Options

variable {w : Workspace} {args : List String} {c : Command} {path : String} {e : Failure}

/-! ## Runs -/

theorem result_of_refused (hpath : c.common.configPath = some path)
    (h : readSettings w.yaml w.files (some path) = .error e) : (runCommand w c).result = .error e := by
  have hload : loadOptions w c.common = .error e := by
    unfold loadOptions
    rw [load_eq, hpath, h]
    rfl
  rw [result_runCommand_eq_answer, analysed, hload]
  rfl

theorem run_of_refused (hparse : parse args = .ok c) (hpath : c.common.configPath = some path) :
    (∀ p, readSettings w.yaml w.files (some path) = .error (.problem p) →
      run w args = ⟨.code 1, "", writtenLog c.common.verbose (runCommand w c).logLines ++ programName ++ ": " ++
        p.message ++ "\n", w.files⟩) ∧
    ∀ f, readSettings w.yaml w.files (some path) = .error (.fault f) → (run w args).ending = .fault f := by
  rw [run_eq_finish hparse]
  unfold finish
  constructor
  · intro p hp
    rw [result_of_refused hpath hp]
  · intro f hf
    rw [result_of_refused hpath hf]

/-- **A file that cannot be read is told, if it is no file or a text.** Then the run ends with one and a line on the
error stream, which has the words of the parser if it is the parser that refuses the text. A directory, a file that the
system does not give and bytes that are no text end in a fault instead. -/
theorem unreadable_file_is_told (yaml : Yaml.Reader) (fs : Files) (hpath : path ≠ "") :
    (IsTold (readSettings yaml fs (some path)) ↔
      standing fs path = .absent ∨
      ∃ text, standing fs path = .file (Utf8.encode text) ∧ ParserAnswers yaml path (unified text)) ∧
    (standing fs path = .absent → readSettings yaml fs (some path) = refuseConfig (.missing path)) ∧
    (∀ text, standing fs path = .file (Utf8.encode text) →
      (IsJsonPath path → ∀ e, Json.read (unified text) = .error e → (∀ n, e ≠ .longInteger n) →
        readSettings yaml fs (some path) = refuseConfig (.malformed path e.message)) ∧
      (¬ IsJsonPath path → ∀ reason, yaml (unified text) = .error (.malformed reason) →
        readSettings yaml fs (some path) = refuseConfig (.malformed path reason))) ∧
    (∀ p, standing fs path = .sealed p →
      readSettings yaml fs (some path) = fail (.file p (Path.ofText path).text)) ∧
    (standing fs path = .directory →
      readSettings yaml fs (some path) = fail (.file .isADirectory (Path.ofText path).text)) ∧
    (∀ bytes, standing fs path = .file bytes → (∀ text, bytes ≠ Utf8.encode text) →
      ∃ e, readSettings yaml fs (some path) = fail (.notText e)) ∧
    ∀ w args c, w.yaml = yaml → w.files = fs → parse args = .ok c → c.common.configPath = some path →
      (∀ p, readSettings yaml fs (some path) = .error (.problem p) →
        run w args = ⟨.code 1, "", writtenLog c.common.verbose (runCommand w c).logLines ++ programName ++ ": " ++
          p.message ++ "\n", fs⟩) ∧
      ∀ f, readSettings yaml fs (some path) = .error (.fault f) → (run w args).ending = .fault f := by
  have htext := readText_eq fs path
  refine ⟨isTold_readSettings hpath, ?_, ?_, ?_, ?_, ?_, ?_⟩
  case refine_1 =>
    intro h
    exact readSettings_of_error hpath (by rw [htext, h]; rfl)
  case refine_2 =>
    intro text h
    rw [h] at htext
    exact readSettings_of_malformed hpath (htext.trans (textOf_encode text))
  case refine_3 =>
    intro p h
    exact readSettings_of_error hpath (by rw [htext, h]; rfl)
  case refine_4 =>
    intro h
    exact readSettings_of_error hpath (by rw [htext, h]; rfl)
  case refine_5 =>
    intro bytes h hspells
    obtain ⟨e, he⟩ := textOf_of_no_text hspells
    exact ⟨e, readSettings_of_error hpath (by rw [htext, h]; exact he)⟩
  case refine_6 =>
    rintro w args c rfl rfl hparse hconfig
    exact run_of_refused hparse hconfig

theorem unreadable_file_is_told_missing :
    IsTold (readSettings Yaml.reader {} (some "k.yaml")) ∧
    (run (installed {} {} none) ["diagnostics", "a.py", "--config", "k.yaml"]).ending = .code 1 := by
  have hparse : parse ["diagnostics", "a.py", "--config", "k.yaml"] =
      .ok (.diagnostics { common := { path := "a.py", configPath := some "k.yaml" } }) :=
    eq_ok_of_toOption (by decide +kernel)
  have habsent : standing {} "k.yaml" = .absent := by cbv
  have hpath : "k.yaml" ≠ "" := by decide
  obtain ⟨htold, hmissing, -, -, -, -, hrun⟩ := unreadable_file_is_told Yaml.reader {} hpath
  refine ⟨htold.mpr (.inl habsent), ?_⟩
  rw [(hrun (installed {} {} none) _ _ rfl rfl hparse rfl).1 _ (hmissing habsent)]

def unreadableFiles : Files where
  directories := [["conf.yaml"]]
  contents := [(["k.yaml"], [0xFF])]

theorem unreadable_file_not_told :
    readSettings Yaml.reader unreadableFiles (some "conf.yaml") = fail (.file .isADirectory "conf.yaml") ∧
    ¬ IsTold (readSettings Yaml.reader unreadableFiles (some "conf.yaml")) ∧
    ¬ IsTold (readSettings Yaml.reader unreadableFiles (some "k.yaml")) := by
  have hdirectory : readText unreadableFiles "conf.yaml" = fail (.file .isADirectory "conf.yaml") := by cbv
  have hbytes : readText unreadableFiles "k.yaml" = fail (.notText ⟨.invalidStart, 0, 1, 0xFF⟩) := by cbv
  exact ⟨readSettings_of_error (by decide) hdirectory, not_isTold_of_fault (by decide) hdirectory,
    not_isTold_of_fault (by decide) hbytes⟩

end CommandLine

end FunctionMetrics
