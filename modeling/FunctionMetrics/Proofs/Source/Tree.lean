import FunctionMetrics.Source.Tree
import FunctionMetrics.Proofs.Outcome

/-! # From a source to its tree

What a file gives is settled by its language, then by its bytes, then by the parsers. -/

namespace FunctionMetrics

variable {w : Workspace} {path : String} {language : Option String}

def treeOf (parsers : Parsers) (language : String) (source : List UInt8) : Outcome (Option Node) :=
  match parsers with
  | none => .ok none
  | some parserOf => (ofLibrary (parserOf (Language.canonical language))).map fun parse => some (parse source)

theorem result_parseSource (parsers : Parsers) (source : List UInt8) (language path : String) :
    (parseSource parsers source language path).result.map (·.map (·.root)) = treeOf parsers language source := by
  cases parsers with
  | none => rfl
  | some parserOf =>
    have hresult : (parseSource (some parserOf) source language path).result =
        (ofLibrary (parserOf (Language.canonical language))).map fun parse =>
          some ⟨path, Language.canonical language, source, parse source⟩ := by
      simp only [parseSource, Run.result_bind, Run.result_liftM]
      cases parserOf (Language.canonical language) <;> rfl
    rw [hresult, treeOf]
    cases parserOf (Language.canonical language) <;> rfl

theorem result_current_file (w : Workspace) (path : String) (language : Option String) :
    ((TreeSource.file path language).current w).result =
      match Language.resolve? language path with
      | none => .ok none
      | some l => readSource w.files path >>= treeOf w.parsers l := by
  simp only [TreeSource.current, parseFile, Run.result_bind, Run.result_pure]
  cases Language.resolve? language path with
  | none => rfl
  | some l =>
    simp only [Run.result_bind, Run.result_liftM]
    cases readSource w.files path with
    | error e => rfl
    | ok source =>
      have h := result_parseSource w.parsers source l path
      simp only [Outcome.ok_bind]
      rw [← h]
      cases (parseSource w.parsers source l path).result <;> rfl

theorem exists_source_of_problem {src : TreeSource} {p : Problem}
    (h : (src.current w).result = .error (.problem p)) : ∃ path q, p = .source path q := by
  cases src with
  | tree root => cases h
  | file path language =>
    rw [result_current_file] at h
    split at h
    · cases h
    · rcases Outcome.bind_eq_error.mp h with h | ⟨source, -, h⟩
      · unfold readSource at h
        split at h
        · cases h
        · split at h
          · cases h
          · cases h
            exact ⟨_, _, rfl⟩
      · unfold treeOf at h
        split at h
        case h_1 => cases h
        case h_2 parserOf _ =>
          generalize parserOf (Language.canonical _) = found at h
          cases found <;> cases h

end FunctionMetrics
