import FunctionMetrics.Proofs.Syntax.Search
import Mathlib.Data.List.Chain
import Mathlib.Order.Defs.PartialOrder

/-!
# Places in a tree

Where nodes lie within the nodes above them and siblings follow one another, the places of any two nodes are nested or
apart, and the pre-order is the order in which nodes start.
-/

namespace FunctionMetrics

/-! ## The order of points -/

instance : PartialOrder Position where
  le_refl p := by change p.le p; unfold Position.le; omega
  le_trans p q r := by change p.le q → q.le r → p.le r; unfold Position.le; omega
  lt_iff_le_not_ge p q := by change p.lt q ↔ p.le q ∧ ¬ q.le p; unfold Position.lt Position.le; omega
  le_antisymm := by
    rintro ⟨row, column⟩ ⟨row', column'⟩ (h | ⟨h, h'⟩) (k | ⟨k, k'⟩)
    all_goals simp only [Position.mk.injEq] at *; omega

/-! ## Ranges -/

namespace Range

def Within (a b : Range) : Prop := b.start ≤ a.start ∧ a.stop ≤ b.stop

instance (a b : Range) : Decidable (a.Within b) := inferInstanceAs (Decidable (b.start ≤ a.start ∧ a.stop ≤ b.stop))

/-- The second range starts no earlier, and it lies inside the first one or after it. -/
def Leads (a b : Range) : Prop := a.start ≤ b.start ∧ (b.Within a ∨ a.stop ≤ b.start)

/-- The second range starts inside the first one and ends outside. -/
def Crosses (a b : Range) : Prop := a.start < b.start ∧ b.start < a.stop ∧ a.stop < b.stop

variable {a b c : Range}

theorem Within.refl (a : Range) : a.Within a := ⟨le_refl _, le_refl _⟩

theorem Within.trans (hab : a.Within b) (hbc : b.Within c) : a.Within c :=
  ⟨le_trans hbc.1 hab.1, le_trans hab.2 hbc.2⟩

theorem Leads.of_within (h : b.Within a) : a.Leads b := ⟨h.1, .inl h⟩

theorem Leads.not_crosses (h : a.Leads b) : ¬ a.Crosses b := by
  rintro ⟨-, hstart, hstop⟩
  rcases h.2 with hwithin | hafter
  · exact not_lt_of_ge hwithin.2 hstop
  · exact not_lt_of_ge hafter hstart

theorem Leads.not_crosses_symm (h : a.Leads b) : ¬ b.Crosses a := fun hcross => not_lt_of_ge h.1 hcross.1

theorem not_crosses_self (a : Range) : ¬ a.Crosses a := fun hcross => lt_irrefl _ hcross.1

theorem not_crosses_of_pairwise {rs : List Range} (h : rs.Pairwise Leads) : ∀ a ∈ rs, ∀ b ∈ rs, ¬ a.Crosses b := by
  induction h with
  | nil => simp
  | @cons first rest hfirst _ ih =>
    intro a ha b hb
    rcases List.mem_cons.mp ha with rfl | ha' <;> rcases List.mem_cons.mp hb with rfl | hb'
    · exact not_crosses_self _
    · exact (hfirst b hb').not_crosses
    · exact (hfirst a ha').not_crosses_symm
    · exact ih a ha' b hb'

end Range

namespace Node

/-! ## Well-placed trees -/

/-- The node does not end before it starts, holds its children, and they follow one another. -/
structure InPlace (n : Node) : Prop where
  start_le_stop : n.range.start ≤ n.range.stop
  within : ∀ c ∈ n.children, c.range.Within n.range
  siblings : n.children.IsChain fun a b => a.range.stop ≤ b.range.start

instance (n : Node) : Decidable n.InPlace :=
  decidable_of_iff
    (n.range.start ≤ n.range.stop ∧ (∀ c ∈ n.children, c.range.Within n.range) ∧
      n.children.IsChain fun a b => a.range.stop ≤ b.range.start)
    ⟨fun ⟨h, h', h''⟩ => ⟨h, h', h''⟩, fun ⟨h, h', h''⟩ => ⟨h, h', h''⟩⟩

/-- No sibling ends before it starts, so a node ends before the start of every later one, not of the next one only. -/
theorem pairwise_of_isChain {ns : List Node} (hns : ∀ n ∈ ns, n.range.start ≤ n.range.stop)
    (h : ns.IsChain fun a b => a.range.stop ≤ b.range.start) :
    ns.Pairwise fun a b => a.range.stop ≤ b.range.start := by
  induction h with
  | nil => exact .nil
  | singleton => simp
  | @cons_cons a b rest hab hrest ih =>
    have hpair := ih fun n hn => hns n (List.mem_cons_of_mem _ hn)
    refine .cons ?_ hpair
    intro c hc
    rcases List.mem_cons.mp hc with rfl | hc
    · exact hab
    · have hb : b.range.start ≤ b.range.stop := hns b (by simp)
      have hbc : b.range.stop ≤ c.range.start := List.rel_of_pairwise_cons hpair hc
      exact le_trans hab (le_trans hb hbc)

def WellPlaced (root : Node) : Prop := ∀ n ∈ root.nodes, n.InPlace

namespace WellPlaced

variable {root c n : Node}

theorem inPlace (h : root.WellPlaced) : root.InPlace := h root (mem_nodes_self root)

theorem start_le_stop (h : root.WellPlaced) (hn : n ∈ root.preorder) : n.range.start ≤ n.range.stop :=
  (h n (by rwa [nodes_eq_preorder])).start_le_stop

theorem child (h : root.WellPlaced) (hc : c ∈ root.children) : c.WellPlaced :=
  fun n hn => h n (mem_nodes_below_child hc hn)

theorem range_within (h : root.WellPlaced) (hn : n ∈ root.preorder) : n.range.Within root.range := by
  rw [← nodes_eq_preorder] at hn
  apply to_root_of_to_parent (R := fun a b => a.range.Within b.range) _ _ _ hn
  · exact fun a => .refl a.range
  · exact fun hab hbc => hab.trans hbc
  · exact fun m hm c hc => (h m hm).within c hc

theorem pairwise_children (h : root.WellPlaced) : root.children.Pairwise fun a b => a.range.stop ≤ b.range.start := by
  apply pairwise_of_isChain _ h.inPlace.siblings
  intro c hc
  exact (h.child hc).inPlace.start_le_stop

theorem pairwise_leads (h : root.WellPlaced) : root.preorder.Pairwise fun a b => a.range.Leads b.range := by
  induction root using inductionOn with
  | step root ih =>
    rw [preorder_eq_flatMap, List.pairwise_cons, List.pairwise_flatMap]
    refine ⟨?_, fun c hc => ih c hc (h.child hc), ?_⟩
    · intro n hn
      have hmem : n ∈ root.preorder := mem_preorder.mpr (.inr (List.mem_flatMap.mp hn))
      exact .of_within (h.range_within hmem)
    · -- Two nodes below different children are apart, since the children are.
      apply h.pairwise_children.imp_of_mem
      intro c d hc hd hcd a ha b hb
      have hac : a.range.Within c.range := (h.child hc).range_within ha
      have hbd : b.range.Within d.range := (h.child hd).range_within hb
      have hstop : a.range.stop ≤ b.range.start := le_trans hac.2 (le_trans hcd hbd.1)
      have ha : a.range.start ≤ a.range.stop := (h.child hc).start_le_stop ha
      exact ⟨le_trans ha hstop, .inr hstop⟩

end WellPlaced

end Node

end FunctionMetrics
