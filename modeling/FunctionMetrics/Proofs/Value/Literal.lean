import FunctionMetrics.Proofs.Number.Limits
import FunctionMetrics.Value.Literal
import Mathlib.Data.List.Perm.Subperm

/-!
# Values that can be shown

A value has a literal exactly if the whole numbers in it are short enough. A collection inside itself is shown by dots,
so every knot comes to an end.
-/

namespace FunctionMetrics.Value

/-! ## Leaves -/

mutual

/-- What stands in a value where its collections end. -/
def leaves : Value → List Value
  | .list xs | .set xs => leavesOfAll xs
  | .pair a b => leaves a ++ leaves b
  | .map es => leavesOfEntries es
  | v => [v]

def leavesOfAll : List Value → List Value
  | [] => []
  | x :: rest => leaves x ++ leavesOfAll rest

def leavesOfEntries : List (Value × Value) → List Value
  | [] => []
  | (k, v) :: rest => leaves k ++ leaves v ++ leavesOfEntries rest

end

def IsShortLeaf (cell : Nat → Prop) : Value → Prop
  | .number (.int n) => n.natAbs < 10 ^ Number.maxDigits
  | .again n | .knot _ n => cell n
  | _ => True

theorem IsShortLeaf.mono {p q : Nat → Prop} {l : Value} (h : l.IsShortLeaf p) (hpq : ∀ n, p n → q n) :
    l.IsShortLeaf q := by
  unfold IsShortLeaf at h ⊢
  split <;> simp_all

/-! ## Literals -/

section

variable (cell : Nat → Option String)

mutual

theorem literalWith_isSome_iff : ∀ v : Value,
    (literalWith cell v).isSome = true ↔ ∀ l ∈ v.leaves, l.IsShortLeaf fun n => (cell n).isSome = true
  | .number (.int n) => by simp [literalWith, leaves, IsShortLeaf, Number.text?, Number.digits?_isSome_iff]
  | .again n | .knot _ n => by simp [literalWith, leaves, IsShortLeaf]
  | .number (.float _) | .null | .bool _ | .text _ | .broken _ | .bytes _ | .date _ | .moment _ => by
    simp [literalWith, leaves, IsShortLeaf, Number.text?]
  | .list xs => by rw [literalWith, Option.isSome_map, leaves, literals_isSome_iff xs]
  | .set [] => by simp [literalWith, leaves, leavesOfAll]
  | .set (x :: xs) => by
    rw [literalWith, Option.isSome_map, leaves, literals_isSome_iff (x :: xs)]
    simp
  | .pair a b => by
    rw [literalWith, leaves, List.forall_mem_append, ← literalWith_isSome_iff a, ← literalWith_isSome_iff b]
    cases literalWith cell a <;> cases literalWith cell b <;> simp
  | .map es => by rw [literalWith, Option.isSome_map, leaves, entryLiterals_isSome_iff es]

theorem literals_isSome_iff : ∀ xs : List Value,
    (literals cell xs).isSome = true ↔ ∀ l ∈ leavesOfAll xs, l.IsShortLeaf fun n => (cell n).isSome = true
  | [] => by simp [literals, leavesOfAll]
  | [x] => by rw [literals, leavesOfAll, leavesOfAll, List.append_nil, literalWith_isSome_iff x]
  | x :: y :: rest => by
    rw [literals, leavesOfAll, List.forall_mem_append, ← literalWith_isSome_iff x, ← literals_isSome_iff (y :: rest)]
    cases literalWith cell x <;> cases literals cell (y :: rest) <;> simp

theorem entryLiterals_isSome_iff : ∀ es : List (Value × Value),
    (entryLiterals cell es).isSome = true ↔
      ∀ l ∈ leavesOfEntries es, l.IsShortLeaf fun n => (cell n).isSome = true
  | [] => by simp [entryLiterals, leavesOfEntries]
  | [(k, v)] => by
    rw [entryLiterals, leavesOfEntries, leavesOfEntries, List.append_nil, List.forall_mem_append,
      ← literalWith_isSome_iff k, ← literalWith_isSome_iff v]
    cases literalWith cell k <;> cases literalWith cell v <;> simp
  | (k, v) :: e :: rest => by
    rw [entryLiterals, leavesOfEntries, List.forall_mem_append, List.forall_mem_append, ← literalWith_isSome_iff k,
      ← literalWith_isSome_iff v, ← entryLiterals_isSome_iff (e :: rest)]
    cases literalWith cell k <;> cases literalWith cell v <;> cases entryLiterals cell (e :: rest) <;> simp

end

end

/-- Each collection on the way to a cell is another one, so the way is no longer than there are cells. -/
theorem cellLiteral_isSome {cells : List Value} (hcells : ∀ c ∈ cells, ∀ l ∈ c.leaves, l.IsShortLeaf (· < cells.length))
    {fuel : Nat} {around : List Nat} (hnodup : around.Nodup) (haround : ∀ m ∈ around, m < cells.length)
    (hfuel : cells.length < fuel + around.length) {n : Nat} (hn : n < cells.length) :
    (cellLiteral cells fuel around n).isSome = true := by
  induction fuel generalizing around n with
  | zero =>
    have hsubset : around ⊆ List.range cells.length := fun m hm => List.mem_range.mpr (haround m hm)
    have hlength := (hnodup.subperm hsubset).length_le
    rw [List.length_range] at hlength
    omega
  | succ fuel ih =>
    simp only [cellLiteral, List.getElem?_eq_getElem hn, Option.bind_eq_bind, Option.bind_some]
    split
    case isTrue => rfl
    case isFalse hnew =>
      have hnew : n ∉ around := fun h => hnew (List.contains_iff_mem.mpr h)
      rw [literalWith_isSome_iff]
      intro l hl
      refine (hcells _ (List.getElem_mem hn) l hl).mono fun m hm => ?_
      apply ih (List.nodup_cons.mpr ⟨hnew, hnodup⟩) _ _ hm
      · intro k hk
        rcases List.mem_cons.mp hk with rfl | hk
        · exact hn
        · exact haround k hk
      · rw [List.length_cons]
        omega

def IsShort : Value → Prop
  | .knot cells start => start < cells.length ∧ ∀ c ∈ cells, ∀ l ∈ c.leaves, l.IsShortLeaf (· < cells.length)
  | v => ∀ l ∈ v.leaves, l.IsShortLeaf fun _ => False

theorem literal?_isSome_of_isShort {v : Value} (h : v.IsShort) : v.literal?.isSome = true := by
  cases v with
  | knot cells start => exact cellLiteral_isSome h.2 List.nodup_nil (by simp) (by simp) h.1
  | _ =>
    refine (literalWith_isSome_iff _ _).mpr fun l hl => (h l hl).mono ?_
    exact fun _ h => h.elim

theorem plain?_isSome (v : Value) : v.plain?.isSome = v.literal?.isSome := by
  unfold plain?
  split <;> simp [literal?, literalWith]

end FunctionMetrics.Value
