import FunctionMetrics.Proofs.Analysis.Report
import FunctionMetrics.Proofs.Syntax.Hole

/-!
# A change in one place of a tree

Where children are replaced, the measurements of their units are replaced. Of all others, only the scores of the units
around the place change, by what the new nodes weigh more than the old ones.
-/

namespace FunctionMetrics

/-! ## Weights of rows -/

namespace Node

def weight (ns : List Node) : ℚ := weightSum (forest ns)

theorem weight_append (a b : List Node) : weight (a ++ b) = weight a + weight b := by
  rw [weight, forest_append, weightSum_append]; rfl

theorem weight_singleton (n : Node) : weight [n] = (weightOf n.kind).value + weight n.children := by
  rw [weight, forest_singleton, preorder_eq, weightSum, List.map_cons, List.sum_cons]; rfl

theorem complexity_value_eq (unit : Node) (h : size [unit] < 2 ^ 51) :
    (complexity unit).value = 1 + weight unit.children := by
  have hsize : unit.descendants.length < 2 ^ 51 := by
    rw [size_singleton] at h
    rw [descendants_eq_forest]
    exact Nat.lt_of_succ_lt h
  rw [complexity_value unit hsize, weight, descendants_eq_forest]

end Node

theorem Frame.weight_children_around (f : Frame) (ns : List Node) :
    Node.weight (f.around ns).children = Node.weight f.before + Node.weight ns + Node.weight f.after := by
  change Node.weight (f.before ++ ns ++ f.after) = _
  rw [Node.weight_append, Node.weight_append]

theorem Frame.weight_wrap (frames : List Frame) {a b : Node} :
    Node.weight [wrap frames b] - Node.weight [wrap frames a] = Node.weight [b] - Node.weight [a] := by
  induction frames with
  | nil => rfl
  | cons f rest ih =>
    rw [wrap_cons, wrap_cons, Node.weight_singleton, Node.weight_singleton, weight_children_around,
      weight_children_around, ← ih]
    change (weightOf f.kind).value + _ - ((weightOf f.kind).value + _) = _
    ring

/-! ## Scores that move -/

/-- A measurement with another score, `δ` above the old one, and the severity of that. -/
def Rescored (t : Thresholds) (δ : ℚ) (m m' : Measurement) : Prop :=
  ∃ x y : Binary64, m.score = .float x ∧ x.isFinite = true ∧ y.isFinite = true ∧ y.value = x.value + δ ∧
    m' = { m with score := .float y, severity := severityOf (.float y) t }

/-- Where the mark is set a measurement has another score; everywhere else it is the same. -/
inductive Patched (t : Thresholds) (δ : ℚ) : List Bool → Report → Report → Prop
  | nil : Patched t δ [] [] []
  | around {m m' : Measurement} {marks : List Bool} {r r' : Report} (head : Rescored t δ m m')
      (tail : Patched t δ marks r r') : Patched t δ (true :: marks) (m :: r) (m' :: r')
  | beside {m : Measurement} {marks : List Bool} {r r' : Report} (tail : Patched t δ marks r r') :
      Patched t δ (false :: marks) (m :: r) (m :: r')

variable {t : Thresholds} {δ : ℚ}

theorem Patched.append {marks marks' : List Bool} {r r' s s' : Report} (h : Patched t δ marks r r')
    (h' : Patched t δ marks' s s') : Patched t δ (marks ++ marks') (r ++ s) (r' ++ s') := by
  induction h with
  | nil => exact h'
  | around head _ ih => exact .around head ih
  | beside _ ih => exact .beside ih

/-- A block of measurements stands in for another one; in front of it some scores have moved by `δ`. -/
def Replaced (t : Thresholds) (δ : ℚ) (marks : List Bool) (block block' r r' : Report) : Prop :=
  ∃ front front' back, r = front ++ block ++ back ∧ r' = front' ++ block' ++ back ∧ Patched t δ marks front front'

theorem Replaced.extend {marks marks' : List Bool} {block block' r r' left left' : Report} (right : Report)
    (h : Replaced t δ marks' block block' r r') (hleft : Patched t δ marks left left') :
    Replaced t δ (marks ++ marks') block block' (left ++ r ++ right) (left' ++ r' ++ right) := by
  obtain ⟨front, front', back, rfl, rfl, hfront⟩ := h
  exact ⟨left ++ front, left' ++ front', back ++ right, by simp, by simp, hleft.append hfront⟩

/-! ## Units before the hole -/

def besideMarks (ns : List Node) : List Bool := (Node.unitsIn ns).map fun _ => false

def Frame.ownMarks (f : Frame) : List Bool := if f.isUnit then [true] else []

def Frame.marks (f : Frame) : List Bool := f.ownMarks ++ besideMarks f.before

/-- For each unit before the hole in pre-order, whether it is around the hole. -/
def Context.marks (c : Context) : List Bool := c.outer.flatMap Frame.marks ++ besideMarks c.inner.before

/-! ## Rows of measurements -/

def measureAll (t : Thresholds) (units : List Node) : Outcome Report :=
  units.mapM fun unit => Measurement.of unit t .cyclomatic

def measureIn (t : Thresholds) (ns : List Node) : Outcome Report := measureAll t (Node.unitsIn ns)

theorem ofTree_eq_measureIn (n : Node) : Report.ofTree (some n) t .cyclomatic = measureIn t [n] := by
  rw [Report.ofTree_some, Node.units_eq_unitsIn]; rfl

theorem measureIn_append {a b : List Node} {r : Report} :
    measureIn t (a ++ b) = .ok r ↔ ∃ x y, measureIn t a = .ok x ∧ measureIn t b = .ok y ∧ r = x ++ y := by
  rw [measureIn, Node.unitsIn_append, measureAll, Outcome.mapM_append_eq_ok]; rfl

theorem measureIn_eq_ok {ns : List Node} {r : Report} :
    measureIn t ns = .ok r ↔
      ∃ blocks, ns.mapM (fun n => Report.ofTree (some n) t .cyclomatic) = .ok blocks ∧ r = blocks.flatten := by
  induction ns generalizing r with
  | nil =>
    change Except.ok [] = Except.ok r ↔ _
    simp [eq_comm]
  | cons n rest ih =>
    rw [← List.singleton_append, measureIn_append, ← ofTree_eq_measureIn]
    constructor
    · rintro ⟨x, y, hx, hy, rfl⟩
      obtain ⟨blocks, hblocks, rfl⟩ := ih.mp hy
      exact ⟨x :: blocks, by simp [hx, hblocks], rfl⟩
    · rintro ⟨blocks, hblocks, rfl⟩
      cases Outcome.mapM_eq_ok.mp hblocks with
      | cons hx hrest => exact ⟨_, _, hx, ih.mpr ⟨_, Outcome.mapM_eq_ok.mpr hrest, rfl⟩, rfl⟩

theorem measureIn_around {f : Frame} {ns : List Node} {r : Report} :
    measureIn t [f.around ns] = .ok r ↔
      ∃ own before inside after, measureAll t (if f.isUnit then [f.around ns] else []) = .ok own ∧
        measureIn t f.before = .ok before ∧ measureIn t ns = .ok inside ∧ measureIn t f.after = .ok after ∧
        r = own ++ before ++ inside ++ after := by
  unfold measureIn
  rw [Frame.unitsIn_around]
  constructor
  · intro h
    obtain ⟨_, after, hfront, hafter, rfl⟩ := Outcome.mapM_append_eq_ok.mp h
    obtain ⟨_, inside, hhead, hinside, rfl⟩ := Outcome.mapM_append_eq_ok.mp hfront
    obtain ⟨own, before, hown, hbefore, rfl⟩ := Outcome.mapM_append_eq_ok.mp hhead
    exact ⟨own, before, inside, after, hown, hbefore, hinside, hafter, rfl⟩
  · rintro ⟨own, before, inside, after, hown, hbefore, hinside, hafter, rfl⟩
    refine Outcome.mapM_append_eq_ok.mpr ⟨_, _, ?_, hafter, rfl⟩
    refine Outcome.mapM_append_eq_ok.mpr ⟨_, _, ?_, hinside, rfl⟩
    exact Outcome.mapM_append_eq_ok.mpr ⟨_, _, hown, hbefore, rfl⟩

theorem patched_beside {ns : List Node} {r : Report} (h : measureIn t ns = .ok r) :
    Patched t δ (besideMarks ns) r r := by
  have hrow := Outcome.mapM_eq_ok.mp h
  unfold besideMarks
  generalize Node.unitsIn ns = units at hrow ⊢
  clear h
  induction hrow with
  | nil => exact .nil
  | cons _ _ ih => exact .beside ih

/-! ## Units around the hole -/

theorem Measurement.of_wrap (f : Frame) (frames : List Frame) {a b : Node} {m : Measurement} (hab : SameHead a b)
    (ha : a.isDeclarator = false) (hsize : Node.size [Frame.wrap (f :: frames) a] < 2 ^ 51)
    (hsize' : Node.size [Frame.wrap (f :: frames) b] < 2 ^ 51)
    (hm : Measurement.of (Frame.wrap (f :: frames) a) t .cyclomatic = .ok m) :
    ∃ m', Measurement.of (Frame.wrap (f :: frames) b) t .cyclomatic = .ok m' ∧
      Rescored t (Node.weight [b] - Node.weight [a]) m m' := by
  obtain ⟨name, hname, rfl⟩ := Measurement.of_eq_ok.mp hm
  have hsearch := sameSearch_wrap f frames hab ha
  rw [hname] at hsearch
  obtain ⟨name', hname', -, hrange, htext⟩ := hsearch.found
  -- Only the children differ, so the weight of the unit itself cancels.
  have hvalue : (complexity (Frame.wrap (f :: frames) b)).value =
      (complexity (Frame.wrap (f :: frames) a)).value + (Node.weight [b] - Node.weight [a]) := by
    have hweight := Frame.weight_wrap (f :: frames) (a := a) (b := b)
    have hkind : (Frame.wrap (f :: frames) b).kind = (Frame.wrap (f :: frames) a).kind := rfl
    rw [Node.weight_singleton, Node.weight_singleton, hkind] at hweight
    rw [Node.complexity_value_eq _ hsize, Node.complexity_value_eq _ hsize', ← hweight]
    ring
  refine ⟨_, Measurement.of_found hname', _, _, rfl, complexity_isFinite _, complexity_isFinite _, hvalue, ?_⟩
  unfold Measurement.named
  rw [← hrange, ← htext]
  rfl

section

variable {a b : Node}

theorem measureAll_own (f : Frame) (frames : List Frame) {own : Report} (hab : SameHead a b)
    (ha : a.isDeclarator = false) (hsize : Node.size [Frame.wrap (f :: frames) a] < 2 ^ 51)
    (hsize' : Node.size [Frame.wrap (f :: frames) b] < 2 ^ 51)
    (hown : measureAll t (if f.isUnit then [Frame.wrap (f :: frames) a] else []) = .ok own) :
    ∃ own', measureAll t (if f.isUnit then [Frame.wrap (f :: frames) b] else []) = .ok own' ∧
      Patched t (Node.weight [b] - Node.weight [a]) f.ownMarks own own' := by
  unfold Frame.ownMarks
  cases hunit : f.isUnit with
  | false =>
    simp only [hunit, Bool.false_eq_true, if_false] at hown ⊢
    cases hown
    exact ⟨[], rfl, .nil⟩
  | true =>
    simp only [hunit, if_true] at hown ⊢
    rcases Outcome.mapM_eq_ok.mp hown with _ | ⟨hm, ⟨⟩⟩
    obtain ⟨m', hm', hrescored⟩ := Measurement.of_wrap f frames hab ha hsize hsize' hm
    exact ⟨[m'], Outcome.mapM_eq_ok.mpr (.cons hm' .nil), .around hrescored .nil⟩

theorem measureIn_wrap (frames : List Frame) {marks : List Bool} {block block' : Report} (hab : SameHead a b)
    (ha : a.isDeclarator = false) (hsize : Node.size [Frame.wrap frames a] < 2 ^ 51)
    (hsize' : Node.size [Frame.wrap frames b] < 2 ^ 51)
    (hinner : ∀ {r}, measureIn t [a] = .ok r → ∃ r', measureIn t [b] = .ok r' ∧
      Replaced t (Node.weight [b] - Node.weight [a]) marks block block' r r')
    {r : Report} (hr : measureIn t [Frame.wrap frames a] = .ok r) :
    ∃ r', measureIn t [Frame.wrap frames b] = .ok r' ∧
      Replaced t (Node.weight [b] - Node.weight [a]) (frames.flatMap Frame.marks ++ marks) block block' r r' := by
  -- From the hole outward: what a frame measures itself, before the hole and behind it, is put around the rest.
  induction frames generalizing r with
  | nil => exact hinner hr
  | cons f rest ih =>
    obtain ⟨own, before, inside, after, hown, hbefore, hinside, hafter, rfl⟩ := measureIn_around.mp hr
    obtain ⟨own', hown', hpatched⟩ := measureAll_own f rest hab ha hsize hsize' hown
    rw [Frame.wrap_cons, Frame.size_around] at hsize hsize'
    obtain ⟨inside', hinside', hreplaced⟩ := ih (by omega) (by omega) hinside
    refine ⟨_, measureIn_around.mpr ⟨own', before, inside', after, hown', hbefore, hinside', hafter, rfl⟩, ?_⟩
    rw [List.flatMap_cons, List.append_assoc]
    exact hreplaced.extend after (hpatched.append (patched_beside hbefore))

end

/-! ## The report -/

namespace Context

variable (c : Context)

theorem inner_isUnit : c.inner.isUnit = false := by
  simpa [Frame.isUnit] using c.not_unit

theorem inner_isDeclarator (ns : List Node) : (c.inner.around ns).isDeclarator = false := by
  have hkind : (c.inner.around ns).kind ∉ declaratorKinds := c.not_declarator
  simpa [Node.isDeclarator] using hkind

theorem weight_inner (F G : List Node) :
    Node.weight [c.inner.around G] - Node.weight [c.inner.around F] = Node.weight G - Node.weight F := by
  rw [Node.weight_singleton, Node.weight_singleton, Frame.weight_children_around, Frame.weight_children_around]
  change (weightOf c.inner.kind).value + _ - ((weightOf c.inner.kind).value + _) = _
  ring

theorem measureIn_inner {F G : List Node} {block block' r : Report} (hF : measureIn t F = .ok block)
    (hG : measureIn t G = .ok block') (hr : measureIn t [c.inner.around F] = .ok r) :
    ∃ r', measureIn t [c.inner.around G] = .ok r' ∧
      Replaced t δ (besideMarks c.inner.before) block block' r r' := by
  obtain ⟨own, before, inside, after, hown, hbefore, hinside, hafter, rfl⟩ := measureIn_around.mp hr
  rw [c.inner_isUnit] at hown
  cases hown
  cases hF.symm.trans hinside
  refine ⟨before ++ block' ++ after, ?_, before, before, after, rfl, rfl, patched_beside hbefore⟩
  refine measureIn_around.mpr ⟨[], before, block', after, ?_, hbefore, hG, hafter, rfl⟩
  rw [c.inner_isUnit]; rfl

theorem exists_measureIn {ns : List Node} {r : Report} (hr : measureIn t [c.fill ns] = .ok r) :
    ∃ block, measureIn t ns = .ok block := by
  unfold fill at hr
  generalize c.outer = frames at hr
  induction frames generalizing r with
  | nil =>
    obtain ⟨_, _, inside, _, -, -, hinside, -, -⟩ := measureIn_around.mp hr
    exact ⟨inside, hinside⟩
  | cons f rest ih =>
    obtain ⟨_, _, _, _, -, -, hinside, -, -⟩ := measureIn_around.mp hr
    exact ih hinside

end Context

def emptyFunction : Context where
  outer := [⟨"function_definition", ⟨.origin, .origin⟩, [], [⟨"identifier", ⟨.origin, .origin⟩, [102], []⟩], []⟩]
  inner := ⟨"block", ⟨.origin, .origin⟩, [], [], []⟩
  not_unit := by decide
  not_declarator := by decide

/-- **A change of a tree changes its report in one place.** Let a tree and each of the trees `G` have a report. Then
the tree has one with `G` in the place of `F` too. The block of `F` gives way to the reports on the trees of `G`, the
scores of the units around it move by what `G` weighs more than `F`, and everything else stays. -/
theorem report_changes_locally (c : Context) (t : Thresholds) {F G : List Node} {r : Report}
    (hsizeF : (c.fill F).nodes.length < 2 ^ 51) (hsizeG : (c.fill G).nodes.length < 2 ^ 51)
    (hF : Report.ofTree (some (c.fill F)) t .cyclomatic = .ok r)
    (hG : ∀ g ∈ G, ∃ s, Report.ofTree (some g) t .cyclomatic = .ok s) :
    ∃ blocksF blocksG r', F.mapM (fun f => Report.ofTree (some f) t .cyclomatic) = .ok blocksF ∧
      G.mapM (fun g => Report.ofTree (some g) t .cyclomatic) = .ok blocksG ∧
      Report.ofTree (some (c.fill G)) t .cyclomatic = .ok r' ∧
      Replaced t (Node.weight G - Node.weight F) c.marks blocksF.flatten blocksG.flatten r r' := by
  rw [Node.length_nodes] at hsizeF hsizeG
  rw [ofTree_eq_measureIn] at hF
  obtain ⟨block, hblock⟩ := c.exists_measureIn hF
  obtain ⟨blocksF, hblocksF, rfl⟩ := measureIn_eq_ok.mp hblock
  obtain ⟨blocksG, hblocksG⟩ := Outcome.mapM_ok_of_forall hG
  have hblock' : measureIn t G = .ok blocksG.flatten := measureIn_eq_ok.mpr ⟨blocksG, hblocksG, rfl⟩
  have hhead : SameHead (c.inner.around F) (c.inner.around G) := ⟨rfl, rfl, rfl⟩
  obtain ⟨r', hr', hreplaced⟩ := measureIn_wrap c.outer hhead (c.inner_isDeclarator F) hsizeF hsizeG
    (fun hr => c.measureIn_inner hblock hblock' hr) hF
  rw [c.weight_inner] at hreplaced
  exact ⟨blocksF, blocksG, r', hblocksF, hblocksG, by rw [ofTree_eq_measureIn]; exact hr', hreplaced⟩

theorem report_changes_locally_body :
    ∃ r, Report.ofTree (some (emptyFunction.fill [])) {} .cyclomatic = .ok r ∧ ∃ blocksF blocksG r',
      [].mapM (fun f => Report.ofTree (some f) {} .cyclomatic) = .ok blocksF ∧
      [{ kind := "if_statement" }].mapM (fun g => Report.ofTree (some g) {} .cyclomatic) = .ok blocksG ∧
      Report.ofTree (some (emptyFunction.fill [{ kind := "if_statement" }])) {} .cyclomatic = .ok r' ∧
      Replaced {} (Node.weight [{ kind := "if_statement" }] - Node.weight []) emptyFunction.marks blocksF.flatten
        blocksG.flatten r r' := by
  have hname : ∀ unit ∈ (emptyFunction.fill []).units, unit.HasName := by
    rw [Node.units_eq_unitsIn]
    intro unit hunit
    obtain rfl : unit = emptyFunction.fill [] := by
      change unit ∈ [emptyFunction.fill []] at hunit
      exact List.mem_singleton.mp hunit
    exact ⟨⟨"identifier", ⟨.origin, .origin⟩, [102], []⟩, by rw [Node.findName_eq]; rfl⟩
  obtain ⟨r, hr⟩ := Report.exists_ofTree_iff.mpr hname
  have hG : ∀ g ∈ [({ kind := "if_statement" } : Node)], ∃ s, Report.ofTree (some g) {} .cyclomatic = .ok s := by
    intro g hg
    obtain rfl := List.mem_singleton.mp hg
    exact Report.exists_ofTree_iff.mpr (by rw [Node.units_eq_unitsIn]; intro _ hunit; cases hunit)
  have hsizeF : (emptyFunction.fill []).nodes.length < 2 ^ 51 := by rw [Node.length_nodes]; decide
  have hsizeG : (emptyFunction.fill [{ kind := "if_statement" }]).nodes.length < 2 ^ 51 := by
    rw [Node.length_nodes]; decide
  exact ⟨r, hr, report_changes_locally emptyFunction {} hsizeF hsizeG hr hG⟩

end FunctionMetrics
