import FunctionMetrics.Proofs.Analysis.Report
import FunctionMetrics.Proofs.Syntax.Hole
import Mathlib.Data.List.Chain

/-!
# Where a name stands

The search for a name goes down one chain of declarators, from a node to the first of its children that decides. At the
end of the chain stands the name, or there is none. What comes behind a child that decides is never looked at.
-/

namespace FunctionMetrics

namespace Node

/-! ## Chains of declarators -/

/-- The first child that decides is a declarator. -/
def LeadsTo (n c : Node) : Prop := n.children.find? decides = some c ∧ c.isDeclarator = true

variable {n c d u v : Node}

theorem isName_of_isDeclarator (h : n.isDeclarator = true) : n.isName = false := by
  simp only [isDeclarator, declaratorKinds, List.contains_eq_mem, List.mem_singleton, decide_eq_true_eq] at h
  simp [isName, nameKinds, h]

theorem isDeclarator_of_decides (h : n.decides = true) (hname : n.isName = false) : n.isDeclarator = true := by
  simpa [decides, hname] using h

theorem LeadsTo.mem (h : LeadsTo n c) : c ∈ n.children := List.mem_of_find?_eq_some h.1

theorem LeadsTo.unique (hc : LeadsTo n c) (hd : LeadsTo n d) : c = d := Option.some.inj (hc.1.symm.trans hd.1)

theorem LeadsTo.findName_eq (h : LeadsTo n c) : n.findName = c.findName := by
  rw [Node.findName_eq n, h.1]
  simp [isName_of_isDeclarator h.2]

def endOfSearch (last : Node) : Search :=
  match last.children.find? decides with
  | some name => .found name
  | none => .lost last

theorem findName_of_end (h : ∀ c, ¬ LeadsTo n c) : n.findName = n.endOfSearch := by
  rw [findName_eq, endOfSearch]
  cases hfind : n.children.find? decides with
  | none => rfl
  | some c =>
    have hname : c.isName = true := by
      by_contra hname
      rw [Bool.not_eq_true] at hname
      exact h c ⟨hfind, isDeclarator_of_decides (List.find?_some hfind) hname⟩
    simp [hname]

/-- A chain that leads no further holds every other one from the same node as its beginning. -/
theorem isPrefix_of_isChain {ds es : List Node} {last : Node} (hds : (u :: ds).IsChain LeadsTo)
    (hlast : (u :: ds).getLast? = some last) (hend : ∀ c, ¬ LeadsTo last c) (hes : (u :: es).IsChain LeadsTo) :
    es <+: ds := by
  induction ds generalizing u es with
  | nil =>
    cases hlast
    cases es with
    | nil => exact List.prefix_rfl
    | cons e es => exact absurd (List.isChain_cons_cons.mp hes).1 (hend e)
  | cons d ds ih =>
    obtain ⟨hd, hds⟩ := List.isChain_cons_cons.mp hds
    rw [List.getLast?_cons_cons] at hlast
    cases es with
    | nil => exact List.nil_prefix
    | cons e es =>
      obtain ⟨he, hes⟩ := List.isChain_cons_cons.mp hes
      obtain rfl := hd.unique he
      exact List.cons_prefix_cons.mpr ⟨rfl, ih hds hlast hes⟩

theorem exists_chain (u : Node) :
    ∃ ds last, (u :: ds).IsChain LeadsTo ∧ (u :: ds).getLast? = some last ∧ (∀ c, ¬ LeadsTo last c) ∧
      u.findName = last.endOfSearch := by
  induction u using inductionOn with
  | step u ih =>
    by_cases hnext : ∃ c, LeadsTo u c
    · obtain ⟨c, hc⟩ := hnext
      obtain ⟨ds, last, hchain, hlast, hend, hsearch⟩ := ih c hc.mem
      refine ⟨c :: ds, last, List.isChain_cons_cons.mpr ⟨hc, hchain⟩, ?_, hend, hc.findName_eq.trans hsearch⟩
      rw [List.getLast?_cons_cons, hlast]
    · rw [not_exists] at hnext
      exact ⟨[], u, .singleton u, rfl, hnext, findName_of_end hnext⟩

theorem endOfSearch_eq_found : n.endOfSearch = .found c ↔ n.children.find? decides = some c := by
  unfold endOfSearch
  cases n.children.find? decides <;> simp

theorem endOfSearch_eq_lost : n.endOfSearch = .lost c ↔ n.children.find? decides = none ∧ c = n := by
  unfold endOfSearch
  cases n.children.find? decides <;> simp [eq_comm]

/-! ## What is not looked at -/

/-- Trees that differ only behind the children that decide, in the root and in the declarators of its chain. -/
inductive SameLead : Node → Node → Prop
  | refl (n : Node) : SameLead n n
  | behindName {kind : String} {range : Range} {text : List UInt8} {before : List Node} {name : Node}
      (hbefore : ∀ b ∈ before, b.decides = false) (hname : name.isName = true) (after after' : List Node) :
      SameLead ⟨kind, range, text, before ++ name :: after⟩ ⟨kind, range, text, before ++ name :: after'⟩
  | behindDeclarator {kind : String} {range : Range} {text : List UInt8} {before : List Node} {c c' : Node}
      (hbefore : ∀ b ∈ before, b.decides = false) (hc : c.isDeclarator = true) (hsame : SameLead c c')
      (after after' : List Node) :
      SameLead ⟨kind, range, text, before ++ c :: after⟩ ⟨kind, range, text, before ++ c' :: after'⟩

theorem SameLead.kind_eq (h : SameLead u v) : u.kind = v.kind := by
  cases h <;> rfl

theorem find?_decides {before after : List Node} (hbefore : ∀ b ∈ before, b.decides = false) (hc : c.decides = true) :
    (before ++ c :: after).find? decides = some c := by
  have hnone : before.find? decides = none := by simpa using hbefore
  rw [List.find?_append, hnone, Option.none_or, List.find?_cons_of_pos hc]

theorem SameLead.findName_eq (h : SameLead u v) : u.findName = v.findName := by
  induction h with
  | refl => rfl
  | @behindName kind range text before name hbefore hname after after' =>
    have hdecides : name.decides = true := by simp [Node.decides, hname]
    rw [Node.findName_eq, Node.findName_eq, find?_decides hbefore hdecides, find?_decides hbefore hdecides]
  | @behindDeclarator kind range text before c c' hbefore hc hsame after after' ih =>
    have hc' : c'.isDeclarator = true := by rwa [isDeclarator, ← hsame.kind_eq]
    have hleads : LeadsTo ⟨kind, range, text, before ++ c :: after⟩ c :=
      ⟨find?_decides hbefore (by simp [Node.decides, hc]), hc⟩
    have hleads' : LeadsTo ⟨kind, range, text, before ++ c' :: after'⟩ c' :=
      ⟨find?_decides hbefore (by simp [Node.decides, hc']), hc'⟩
    rw [hleads.findName_eq, hleads'.findName_eq, ih]

/-! ## Names -/

theorem name_eq_ok : u.name = .ok n ↔ u.findName = .found n := by
  cases h : u.findName with
  | found m => simp [name_of_found h]
  | lost m => simp [name_of_lost h]

theorem name_eq_error {e : Failure} : u.name = .error e ↔ ∃ m, u.findName = .lost m ∧ e = nameFailure m := by
  cases h : u.findName with
  | found m => simp [name_of_found h]
  | lost m => simp [name_of_lost h, eq_comm]

/-- **A name stands at the end of one chain.** The declarators that lead down from a node are the beginnings of one
chain. The name is the first child that decides in the last node of that chain; where no child decides, the search
fails with that node, which is told unless a number of its place has too many digits. Nothing behind the children that
decide changes what is found, or how the search fails. -/
theorem name_at_end_of_chain (u : Node) :
    ∃ ds last, (u :: ds).IsChain LeadsTo ∧ (u :: ds).getLast? = some last ∧
      (∀ es, (u :: es).IsChain LeadsTo → es <+: ds) ∧
      (∀ n, u.name = .ok n ↔ last.children.find? decides = some n) ∧
      (∀ n, u.name = .ok n → n.kind ∈ nameKinds) ∧
      (∀ e, u.name = .error e ↔ last.children.find? decides = none ∧
        e = if last.range.isWritable then .problem (.nameNotFound last.kind last.range) else .fault .unwritable) ∧
      ∀ v, SameLead u v → v.name = u.name := by
  obtain ⟨ds, last, hchain, hlast, hend, hsearch⟩ := exists_chain u
  have hfound : ∀ n, u.name = .ok n ↔ last.children.find? decides = some n := by
    intro n
    rw [name_eq_ok, hsearch, endOfSearch_eq_found]
  refine ⟨ds, last, hchain, hlast, fun es hes => isPrefix_of_isChain hchain hlast hend hes, hfound, ?_, ?_, ?_⟩
  case refine_1 =>
    intro n hn
    have hfirst := (hfound n).mp hn
    -- A declarator would lead on, but the chain has ended.
    by_contra hname
    have hdeclarator : n.isDeclarator = true :=
      isDeclarator_of_decides (List.find?_some hfirst) (by simpa [isName] using hname)
    exact hend n ⟨hfirst, hdeclarator⟩
  case refine_2 =>
    intro e
    simp only [name_eq_error, hsearch, endOfSearch_eq_lost]
    constructor
    · rintro ⟨m, ⟨hnone, rfl⟩, he⟩
      exact ⟨hnone, he⟩
    · rintro ⟨hnone, he⟩
      exact ⟨last, ⟨hnone, rfl⟩, he⟩
  case refine_3 =>
    intro v hv
    unfold Node.name
    rw [hv.findName_eq]

end Node

end FunctionMetrics
