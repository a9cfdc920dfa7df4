import FunctionMetrics.Proofs.Source.Language
import FunctionMetrics.Proofs.Source.Tree

/-!
# The tree of a file

For the tree of a file its language comes first, then its bytes, then the parsers. What is missing first decides what
becomes of the file: without a language there is no tree, without bytes a problem, without parsers no tree again.
-/

namespace FunctionMetrics

/-! ## Bytes -/

namespace Files

variable {fs : Files} {path : String} {bytes : List UInt8}

/-- The bytes of the file that a path leads to, if they may be read. -/
def Holds (fs : Files) (path : String) (bytes : List UInt8) : Prop :=
  isUsablePath path = true ∧ ∃ names, fs.resolve (Path.ofText path) = .ok names ∧
    fs.refusal? .read names = none ∧ fs.bytesAt? names = some bytes

def Refuses (fs : Files) (path : String) (p : FileProblem) : Prop :=
  isUsablePath path = true ∧ fs.read (Path.ofText path) = .error p

theorem read_eq_ok {p : Path} :
    fs.read p = .ok bytes ↔
      ∃ names, fs.resolve p = .ok names ∧ fs.refusal? .read names = none ∧ fs.bytesAt? names = some bytes := by
  unfold read
  cases fs.resolve p with
  | error e => simp [bind, Except.bind]
  | ok names =>
    unfold allow
    cases hrefusal : fs.refusal? .read names <;> cases hbytes : fs.bytesAt? names <;>
      simp [bind, Except.bind, hrefusal, hbytes]

end Files

theorem readSource_eq_ok {fs : Files} {path : String} {bytes : List UInt8} :
    readSource fs path = .ok bytes ↔ fs.Holds path bytes := by
  unfold readSource Files.Holds
  rw [← Files.read_eq_ok]
  cases isUsablePath path <;> cases fs.read (Path.ofText path) <;> simp [fail, refuse]

theorem readSource_eq_problem {fs : Files} {path : String} {p : Problem} :
    readSource fs path = .error (.problem p) ↔ ∃ q, fs.Refuses path q ∧ p = .source path q := by
  unfold readSource Files.Refuses
  cases isUsablePath path <;> cases fs.read (Path.ofText path) <;> simp [fail, refuse, eq_comm]

theorem readSource_ne_library (fs : Files) (path : String) (e : LibraryError) :
    readSource fs path ≠ .error (.fault (.library e)) := by
  unfold readSource
  cases isUsablePath path <;> cases fs.read (Path.ofText path) <;> simp [fail, refuse]

/-! ## Parsers -/

namespace Run

variable {α : Type}

def asked (x : Run α) : List String :=
  x.events.filterMap fun
    | .asked language => some language
    | _ => none

def requests (x : Run α) : List (String × List UInt8) :=
  x.events.filterMap fun
    | .parsed language source => some (language, source)
    | _ => none

end Run

namespace TreeSource

variable {w : Workspace} {path l : String} {language : Option String} {source : List UInt8}
  {parserOf : String → Except LibraryError (List UInt8 → Node)}

theorem current_file (w : Workspace) (path : String) (language : Option String) :
    (file path language).current w =
      match Language.resolve? language path with
      | none => ⟨[.logged ⟨.info, .parsing, "No parser for " ++ path⟩], .ok none⟩
      | some l =>
        match readSource w.files path with
        | .error e => ⟨[], .error e⟩
        | .ok source =>
          match w.parsers with
          | none =>
            ⟨[.logged ⟨.info, .parsing, "tree_sitter_languages is not installed; no syntax tree for " ++ path⟩],
              .ok none⟩
          | some parserOf =>
            match parserOf (Language.canonical l) with
            | .error e => ⟨[.asked (Language.canonical l)], fail (.library e)⟩
            | .ok parse =>
              ⟨[.asked (Language.canonical l), .parsed (Language.canonical l) source], .ok (some (parse source))⟩ := by
  simp only [current, parseFile]
  cases Language.resolve? language path with
  | none => rfl
  | some l =>
    dsimp only
    cases readSource w.files path with
    | error e => rfl
    | ok source =>
      cases hparsers : w.parsers with
      | none => rfl
      | some parserOf =>
        simp only [parseSource]
        cases parserOf (Language.canonical l) <;> rfl

/-- What it takes for a parser to be asked for: a language of the file, its bytes, and parsers. -/
structure Asks (w : Workspace) (path : String) (language : Option String) (l : String) (source : List UInt8)
    (parserOf : String → Except LibraryError (List UInt8 → Node)) : Prop where
  language : Language.IsFor l language path
  source : w.files.Holds path source
  parsers : w.parsers = some parserOf

theorem asks_iff :
    Asks w path language l source parserOf ↔
      Language.resolve? language path = some l ∧ readSource w.files path = .ok source ∧ w.parsers = some parserOf := by
  rw [Language.resolve?_eq_some_iff, readSource_eq_ok]
  constructor
  · rintro ⟨hl, hsource, hparsers⟩
    exact ⟨hl, hsource, hparsers⟩
  · rintro ⟨hl, hsource, hparsers⟩
    exact ⟨hl, hsource, hparsers⟩

/-- **A file becomes a tree.** A parser is asked for once, and only if the file has a language, can be read, and there
are parsers; it is that of the language, by its usual name, and it is given the bytes of the file. Its tree is the
answer, and where it is unknown its error is. Without a name, a path has the language of its suffix in any letter case.
There is no tree if there is no language, whatever the files are, or if the file can be read and there are no parsers.
And there is a problem, with the path, if there is a language and the file cannot be read, with parsers or without. -/
theorem file_becomes_tree (w : Workspace) (path : String) (language : Option String) :
    (Language.canonical "csharp" = "c_sharp" ∧ ∀ l, l ≠ "csharp" → Language.canonical l = l) ∧
    (∀ l kind stem shout, (l, kind) ∈ Language.known → (∃ c, stem.toList.getLast? = some c ∧ c ≠ '/') →
      shout.toList.map Char.toLower = kind.toList → Language.IsFor l none (stem ++ shout)) ∧
    (((file path language).current w).asked.length ≤ 1 ∧ ((file path language).current w).requests.length ≤ 1) ∧
    (∀ name, name ∈ ((file path language).current w).asked ↔
      ∃ l source parserOf, Asks w path language l source parserOf ∧ name = Language.canonical l) ∧
    (∀ request, request ∈ ((file path language).current w).requests ↔
      ∃ l source parserOf parse, Asks w path language l source parserOf ∧
        parserOf (Language.canonical l) = .ok parse ∧ request = (Language.canonical l, source)) ∧
    (∀ root, ((file path language).current w).result = .ok (some root) ↔
      ∃ l source parserOf parse, Asks w path language l source parserOf ∧
        parserOf (Language.canonical l) = .ok parse ∧ root = parse source) ∧
    (∀ e, ((file path language).current w).result = .error (.fault (.library e)) ↔
      ∃ l source parserOf, Asks w path language l source parserOf ∧ parserOf (Language.canonical l) = .error e) ∧
    (((file path language).current w).result = .ok none ↔
      (∀ l, ¬ Language.IsFor l language path) ∨ ((∃ source, w.files.Holds path source) ∧ w.parsers = none)) ∧
    ((∀ l, ¬ Language.IsFor l language path) → ∀ files,
      (file path language).current { w with files } = (file path language).current w) ∧
    (∀ p, ((file path language).current w).result = .error (.problem p) ↔
      (∃ l, Language.IsFor l language path) ∧ ∃ q, w.files.Refuses path q ∧ p = .source path q) := by
  simp only [asks_iff, ← Language.resolve?_eq_some_iff, ← readSource_eq_ok, ← readSource_eq_problem]
  refine ⟨⟨Language.canonical_csharp, fun l => Language.canonical_of_ne⟩, ?_, ?_, ?_, ?_, ?_, ?_, ?_, ?_, ?_⟩
  case refine_1 =>
    intro l kind stem shout hkind hstem hshout
    exact Language.resolve?_eq_some_iff.mpr (.inr ⟨.inl rfl, kind, hkind, Language.hasSuffix_append hkind hstem hshout⟩)
  case refine_8 =>
    intro hnone files
    rw [current_file, current_file, Option.eq_none_iff_forall_ne_some.mpr hnone]
  all_goals
    rw [current_file]
    cases hl : Language.resolve? language path with
    | none => simp [Run.asked, Run.requests]
    | some l =>
      cases hsource : readSource w.files path with
      | error e =>
        have hlibrary := readSource_ne_library w.files path
        rw [hsource] at hlibrary
        simp_all [Run.asked, Run.requests]
      | ok source =>
        cases hparsers : w.parsers with
        | none => simp [Run.asked, Run.requests]
        | some parserOf =>
          cases hparse : parserOf (Language.canonical l) <;> simp [Run.asked, Run.requests, fail, hparse, eq_comm]

end TreeSource

end FunctionMetrics
