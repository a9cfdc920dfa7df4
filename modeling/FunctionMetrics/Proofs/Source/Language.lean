import FunctionMetrics.Proofs.Text.Case
import FunctionMetrics.Source.Language
import Mathlib.Data.List.TakeWhile

/-!
# The language of a file

A language goes by its usual name. A file that no language is named for has that of its suffix, in any letter case.
-/

namespace FunctionMetrics

namespace Path

variable {text : String} {stem last letters : List Char}

/-! ## Last parts -/

theorem name_ofText (hlast : '/' ∉ last) (hlong : 1 < last.length)
    (h : text.toList = last ∨ ∃ dir, text.toList = dir ++ '/' :: last) : (ofText text).name = String.ofList last := by
  have hsplit : ∃ before, text.toList.splitOn '/' = before ++ [last] := by
    rcases h with h | ⟨dir, h⟩
    · exact ⟨[], by rw [h, List.splitOn_eq_singleton hlast, List.nil_append]⟩
    · exact ⟨dir.splitOn '/', by rw [h, List.splitOn_append_cons_self, List.splitOn_eq_singleton hlast]⟩
  obtain ⟨before, hsplit⟩ := hsplit
  have hkept : String.ofList last ≠ "" ∧ String.ofList last ≠ "." := by
    constructor
    · intro hempty
      simp [show last = [] by simpa using congrArg String.toList hempty] at hlong
    · intro hdot
      simp [show last = ['.'] by simpa using congrArg String.toList hdot] at hlong
  have hparts : (ofText text).parts = (before.map String.ofList).filter (fun part => part ≠ "" ∧ part ≠ ".") ++
      [String.ofList last] := by
    simp only [ofText, partsOf, hsplit, List.map_append, List.filter_append, List.map_singleton,
      List.filter_singleton, hkept, decide_true, and_self, ne_eq, not_false_eq_true]
    rfl
  rw [name, hparts, List.getLast?_concat, Option.getD_some]

theorem exists_lastPart {cs : List Char} {c : Char} (h : cs.getLast? = some c) (hc : c ≠ '/') :
    ∃ part, part ≠ [] ∧ '/' ∉ part ∧ (cs = part ∨ ∃ dir, cs = dir ++ '/' :: part) := by
  by_cases hslash : '/' ∈ cs
  · obtain ⟨part, dir, hsplit, hpart⟩ := List.eq_append_cons_of_mem (List.mem_reverse.mpr hslash)
    have hcs : cs = dir.reverse ++ '/' :: part.reverse := by
      rw [← List.reverse_reverse cs, hsplit]
      simp
    refine ⟨part.reverse, ?_, by simpa using hpart, .inr ⟨_, hcs⟩⟩
    intro hnil
    rw [hcs, hnil, List.getLast?_concat] at h
    exact hc (Option.some.inj h).symm
  · exact ⟨cs, List.ne_nil_of_mem (List.mem_of_getLast? h), hslash, .inl rfl⟩

theorem suffix_of_name {p : Path} (hname : p.name = String.ofList (stem ++ '.' :: letters)) (hstem : stem ≠ [])
    (hletters : letters ≠ []) (hdot : '.' ∉ letters) : p.suffix = String.ofList ('.' :: letters) := by
  have hbehind : (stem ++ '.' :: letters).reverse.takeWhile (· ≠ '.') = letters.reverse := by
    have hall : ∀ c ∈ letters.reverse, decide (c ≠ '.') = true := fun c hc =>
      decide_eq_true (by rintro rfl; exact hdot (List.mem_reverse.mp hc))
    rw [List.reverse_append, List.reverse_cons, List.append_assoc, List.takeWhile_append_of_pos hall]
    simp
  have hlength := List.length_pos_iff.mpr hstem
  rw [suffix, hname, String.toList_ofList, hbehind, if_pos, List.reverse_reverse]
  refine ⟨?_, by simpa using hletters⟩
  simp only [List.length_reverse, List.length_append, List.length_cons]
  omega

end Path

namespace Language

variable {given : Option String} {path l kind : String}

/-! ## Names -/

theorem canonical_csharp : canonical "csharp" = "c_sharp" := by decide

theorem canonical_of_ne (h : l ≠ "csharp") : canonical l = l := by
  have hne : (l == "csharp") = false := by simpa using h
  rw [canonical, aliases, List.lookup_cons, hne]
  rfl

/-! ## Suffixes -/

def known : List (String × String) :=
  [("python", ".py"), ("php", ".php"), ("c", ".c"), ("c", ".h"), ("cpp", ".cc"), ("cpp", ".cpp"), ("cpp", ".cxx"),
    ("cpp", ".hh"), ("cpp", ".hpp"), ("cpp", ".hxx"), ("java", ".java"), ("c_sharp", ".cs")]

/-- A path has a suffix if that of its last part is this one in any letter case. -/
def HasSuffix (path kind : String) : Prop := (Path.ofText path).suffix.toList.map Char.toLower = kind.toList

/-- A language that is named is the one; without a name it is the one with the suffix of the path. -/
def IsFor (l : String) (given : Option String) (path : String) : Prop :=
  (given = some l ∧ l ≠ "") ∨ ((given = none ∨ given = some "") ∧ ∃ kind, (l, kind) ∈ known ∧ HasSuffix path kind)

theorem known_eq : known = suffixes.flatMap fun (l, kinds) => kinds.map (l, ·) := by decide

theorem suffixes_disjoint : ∀ a ∈ suffixes, ∀ b ∈ suffixes, ∀ kind ∈ a.2, kind ∈ b.2 → a = b := by decide

theorem isOwnSmall_of_known (h : (l, kind) ∈ known) : ∀ c ∈ kind.toList, Text.IsOwnSmall c.toNat := by
  have hall : (known.all fun row => row.2.toList.all fun c => Text.IsOwnSmall c.toNat) = true := by decide
  simp only [List.all_eq_true, decide_eq_true_eq] at hall
  exact hall _ h

theorem dot_of_known (h : (l, kind) ∈ known) :
    ∃ letters, kind.toList = '.' :: letters ∧ letters ≠ [] ∧ '.' ∉ letters ∧ '/' ∉ letters := by
  have hall : ∀ row ∈ known, row.2.toList = '.' :: row.2.toList.tail ∧ row.2.toList.tail ≠ [] ∧
      '.' ∉ row.2.toList.tail ∧ '/' ∉ row.2.toList.tail := by decide
  exact ⟨_, hall _ h⟩

theorem find?_suffixes :
    (suffixes.find? fun (_, kinds) => kinds.contains kind).map (·.1) = some l ↔ (l, kind) ∈ known := by
  have hdisjoint := suffixes_disjoint
  rw [known_eq]
  generalize suffixes = rows at hdisjoint ⊢
  simp only [Option.map_eq_some_iff, List.mem_flatMap, List.mem_map, Prod.mk.injEq]
  constructor
  · rintro ⟨⟨name, kinds⟩, hfind, rfl⟩
    have hkind := List.find?_some hfind
    exact ⟨_, List.mem_of_find?_eq_some hfind, kind, List.contains_iff_mem.mp hkind, rfl, rfl⟩
  · rintro ⟨⟨name, kinds⟩, hmem, k, hkind, rfl, rfl⟩
    cases hfind : rows.find? fun (_, kinds) => kinds.contains k with
    | none => simpa [hkind] using List.find?_eq_none.mp hfind _ hmem
    | some row =>
      have hrow := List.find?_some hfind
      obtain rfl := hdisjoint row (List.mem_of_find?_eq_some hfind) _ hmem k (List.contains_iff_mem.mp hrow) hkind
      exact ⟨_, rfl, rfl⟩

theorem ofPath?_eq_some_iff : ofPath? path = some l ↔ ∃ kind, (l, kind) ∈ known ∧ HasSuffix path kind := by
  unfold ofPath? Path.kind HasSuffix
  rw [find?_suffixes]
  constructor
  · intro h
    exact ⟨_, h, (Text.lowerText_eq_iff (isOwnSmall_of_known h)).mp rfl⟩
  · rintro ⟨kind, h, hsuffix⟩
    rwa [(Text.lowerText_eq_iff (isOwnSmall_of_known h)).mpr hsuffix]

theorem resolve?_eq_some_iff : resolve? given path = some l ↔ IsFor l given path := by
  unfold resolve? IsFor
  split
  case h_1 => simp [ofPath?_eq_some_iff]
  case h_2 => simp +contextual [ofPath?_eq_some_iff]
  case h_3 name hname =>
    have hname : name ≠ "" := fun h => hname (by rw [h])
    simp only [Option.some.injEq, reduceCtorEq, hname, or_self, false_and, or_false]
    constructor
    · rintro rfl
      exact ⟨rfl, hname⟩
    · exact And.left

theorem toLower_eq_iff {c d : Char} (hd : d.toNat < 0x41) : c.toLower = d ↔ c = d := by
  rw [← Char.toNat_inj, ← Char.toNat_inj, Text.toNat_toLower, Text.lowerAscii]
  split <;> omega

theorem mem_of_mem_toLower {cs : List Char} {d : Char} (hd : d.toNat < 0x41) (h : d ∈ cs) : d ∈ cs.map Char.toLower :=
  List.mem_map.mpr ⟨d, h, (toLower_eq_iff hd).mpr rfl⟩

theorem hasSuffix_append {stem shout : String} (hkind : (l, kind) ∈ known)
    (hstem : ∃ c, stem.toList.getLast? = some c ∧ c ≠ '/') (hshout : shout.toList.map Char.toLower = kind.toList) :
    HasSuffix (stem ++ shout) kind := by
  obtain ⟨small, hsmall, hne, hdot, hslash⟩ := dot_of_known hkind
  rw [hsmall] at hshout
  obtain ⟨c, letters, hletters, hc, rfl⟩ := List.map_eq_cons_iff.mp hshout
  obtain rfl := (toLower_eq_iff (by decide)).mp hc
  have hdot : '.' ∉ letters := fun h => hdot (mem_of_mem_toLower (by decide) h)
  have hslash : '/' ∉ letters := fun h => hslash (mem_of_mem_toLower (by decide) h)
  obtain ⟨d, hd, hend⟩ := hstem
  obtain ⟨part, hpart, hplain, hwhole⟩ := Path.exists_lastPart hd hend
  have hname : (Path.ofText (stem ++ shout)).name = String.ofList (part ++ '.' :: letters) := by
    apply Path.name_ofText
    · simp [hplain, hslash]
    · have := List.length_pos_iff.mpr hpart
      simp only [List.length_append, List.length_cons]
      omega
    · rw [String.toList_append, hletters]
      rcases hwhole with h | ⟨dir, h⟩
      · exact .inl (by rw [h])
      · exact .inr ⟨dir, by rw [h]; simp⟩
  rw [HasSuffix, Path.suffix_of_name hname hpart (by simpa using hne) hdot, String.toList_ofList, hsmall, List.map_cons]
  rfl

/-- Capital letters in a suffix do not matter, and the last dot counts. -/
example : ofPath? "src/v1.2/Main.CS" = some "c_sharp" := by decide +kernel

end Language

end FunctionMetrics
