import FunctionMetrics.Value.Basic

/-!
# Keys

Two values are the same key when they come down to the same plain form. So being the same key is symmetric and
transitive; it is not reflexive, since a NaN is the same key as nothing.
-/

namespace FunctionMetrics

/-- A key without what does not tell it from another: a number is its place, a moment its instant. -/
inductive Key
  | null
  | text (s : String)
  | broken (codes : Text.Codes)
  | bytes (b : List UInt8)
  | date (d : Date)
  | moment (zoned : Bool) (instant : Int)
  | number (p : Place)
  | pair (first second : Key)
deriving DecidableEq

namespace Value

def key? : Value → Option Key
  | .null => some .null
  | .text s => some (.text s)
  | .broken cs => some (.broken cs)
  | .bytes b => some (.bytes b)
  | .date d => some (.date d)
  | .moment m => some (.moment m.offset.isSome m.instant)
  | .bool b => (Number.place? (if b then 1 else 0)).map .number
  | .number n => n.place?.map .number
  | .pair a b => (key? a).bind fun k => (key? b).map fun l => .pair k l
  | _ => none

theorem same_iff (m n : Number) :
    m.same n = true ↔ ∃ k, m.place?.map Key.number = some k ∧ n.place?.map Key.number = some k := by
  unfold Number.same
  cases m.place? <;> cases n.place? <;> simp [eq_comm]

theorem key?_of_asNumber? {v : Value} {n : Number} (h : v.asNumber? = some n) :
    v.key? = n.place?.map .number := by
  cases v <;> simp_all [asNumber?, key?]

theorem shape_of_key? {v : Value} {k : Key} (h : v.key? = some k) :
    match k with
    | .null => v = .null
    | .text s => v = .text s
    | .broken cs => v = .broken cs
    | .bytes b => v = .bytes b
    | .date d => v = .date d
    | .moment .. => ∃ m, v = .moment m
    | .number _ => ∃ n, v.asNumber? = some n
    | .pair .. => ∃ a b, v = .pair a b := by
  cases v with
  | null | text | broken | bytes | date | moment => cases h; simp
  | bool b =>
    obtain ⟨p, -, rfl⟩ := Option.map_eq_some_iff.mp h
    exact ⟨_, rfl⟩
  | number n =>
    obtain ⟨p, -, rfl⟩ := Option.map_eq_some_iff.mp h
    exact ⟨_, rfl⟩
  | pair a b =>
    obtain ⟨k, -, h⟩ := Option.bind_eq_some_iff.mp h
    obtain ⟨l, -, rfl⟩ := Option.map_eq_some_iff.mp h
    exact ⟨a, b, rfl⟩
  | list | map | set | again | knot => cases h

theorem sameKey_iff {a b : Value} : a.sameKey b = true ↔ ∃ k, a.key? = some k ∧ b.key? = some k := by
  fun_induction sameKey a b with
  | case1 | case2 | case3 | case4 | case5 => simp [key?, eq_comm]
  | case6 m n =>
    constructor
    · intro h
      obtain ⟨hzone, hinstant⟩ := of_decide_eq_true h
      exact ⟨_, rfl, by simp only [key?, hzone, hinstant]⟩
    · rintro ⟨k, hm, hn⟩
      obtain ⟨hzone, hinstant⟩ := Key.moment.inj (Option.some.inj (hm.trans hn.symm))
      exact decide_eq_true ⟨hzone, hinstant⟩
  | case7 a b c d ihac ihbd =>
    simp only [Bool.and_eq_true, ihac, ihbd, key?, Option.bind_eq_some_iff, Option.map_eq_some_iff]
    constructor
    · rintro ⟨⟨k, hak, hck⟩, l, hbl, hdl⟩
      exact ⟨_, ⟨k, hak, l, hbl, rfl⟩, k, hck, l, hdl, rfl⟩
    · rintro ⟨_, ⟨k, hak, l, hbl, rfl⟩, k', hck, l', hdl, heq⟩
      obtain ⟨rfl, rfl⟩ := Key.pair.inj heq
      exact ⟨⟨_, hak, hck⟩, _, hbl, hdl⟩
  | case8 a b _ _ _ _ _ _ _ m n hn hm => rw [same_iff, key?_of_asNumber? hm, key?_of_asNumber? hn]
  | case9 a b hnull htext hbroken hbytes hdate hmoment hpair hnumber =>
    simp only [Bool.false_eq_true, false_iff, not_exists, not_and]
    intro k ha hb
    have ha := shape_of_key? ha
    have hb := shape_of_key? hb
    cases k with
    | null => exact hnull ha hb
    | text s => exact htext s s ha hb
    | broken cs => exact hbroken cs cs ha hb
    | bytes xs => exact hbytes xs xs ha hb
    | date d => exact hdate d d ha hb
    | moment zoned instant =>
      obtain ⟨m, ha⟩ := ha
      obtain ⟨n, hb⟩ := hb
      exact hmoment m n ha hb
    | number p =>
      obtain ⟨m, ha⟩ := ha
      obtain ⟨n, hb⟩ := hb
      exact hnumber m n ha hb
    | pair k l =>
      obtain ⟨c, d, ha⟩ := ha
      obtain ⟨e, f, hb⟩ := hb
      exact hpair c d e f ha hb

theorem sameKey_symm {a b : Value} (h : a.sameKey b = true) : b.sameKey a = true := by
  obtain ⟨k, ha, hb⟩ := sameKey_iff.mp h
  exact sameKey_iff.mpr ⟨k, hb, ha⟩

theorem sameKey_trans {a b c : Value} (hab : a.sameKey b = true) (hbc : b.sameKey c = true) :
    a.sameKey c = true := by
  obtain ⟨k, ha, hb⟩ := sameKey_iff.mp hab
  obtain ⟨l, hb', hc⟩ := sameKey_iff.mp hbc
  obtain rfl : k = l := Option.some.inj (hb.symm.trans hb')
  exact sameKey_iff.mpr ⟨k, ha, hc⟩

theorem sameKey_congr {a b : Value} (h : a.sameKey b = true) (c : Value) : a.sameKey c = b.sameKey c :=
  Bool.eq_iff_iff.mpr ⟨sameKey_trans (sameKey_symm h), sameKey_trans h⟩

theorem notKey?_of_key? {v : Value} {k : Key} (h : v.key? = some k) : v.notKey? = none := by
  fun_induction key? v generalizing k with
  | case9 a b iha ihb =>
    obtain ⟨k, ha, h⟩ := Option.bind_eq_some_iff.mp h
    obtain ⟨l, hb, -⟩ := Option.map_eq_some_iff.mp h
    rw [notKey?, iha ha, ihb hb]; rfl
  | case10 => cases h
  | _ => rfl

theorem notKey?_of_sameKey {a b : Value} (h : a.sameKey b = true) : a.notKey? = none := by
  obtain ⟨k, ha, -⟩ := sameKey_iff.mp h
  exact notKey?_of_key? ha

end Value

end FunctionMetrics
