import FunctionMetrics.Options.Basic
import FunctionMetrics.Proofs.Options.Entries
import FunctionMetrics.Proofs.Outcome

/-!
# Options from entries over entries

Four values are accepted exactly when they are those of some options. So options keep all that counts of the entries
they come from, and to merge further entries into them is to put these over the first ones and to start again.
-/

namespace FunctionMetrics

theorem Border.ofName?_eq_some {s : String} {b : Border} : ofName? s = some b ↔ s = b.name := by
  constructor
  · intro h
    unfold ofName? at h
    have hname := List.find?_some h
    exact (of_decide_eq_true hname).symm
  · rintro rfl
    cases b <;> rfl

namespace Options

variable {v producer border low high : Value} {base o : Options} {m es overrides : Entries}

/-! ## Checks -/

theorem refuseGiven_ne_ok {α : Type} {problem : String → ConfigProblem} {a : α} : refuseGiven v problem ≠ .ok a := by
  unfold refuseGiven
  cases written v.literal? <;> simp [refuseConfig, refuse]

theorem checkProducer_eq_ok {b : Bool} : checkProducer v = .ok b ↔ v = .bool b := by
  unfold checkProducer
  split
  · simp
  · rename_i h
    simp only [refuseGiven_ne_ok, false_iff]
    exact h b

theorem checkBorder_eq_ok {b : Border} : checkBorder v = .ok b ↔ v = .text b.name := by
  unfold checkBorder
  split
  · rename_i s
    rw [Value.text.injEq, ← Border.ofName?_eq_some]
    cases Border.ofName? s with
    | none => simp [refuseGiven_ne_ok]
    | some b' => simp
  · rename_i h
    simp only [refuseGiven_ne_ok, false_iff]
    exact h b.name

theorem checkThreshold_eq_ok {bound : Bound} {n : Threshold} : checkThreshold bound v = .ok n ↔ v = .number n.1 := by
  unfold checkThreshold
  split
  · rename_i m
    split
    case isTrue h =>
      rw [Except.ok.injEq, Value.number.injEq, Subtype.ext_iff]
    case isFalse h =>
      rw [Value.number.injEq]
      constructor
      · cases m <;> simp [refuseThreshold, fail, refuseConfig, refuse]
      · rintro rfl
        exact absurd n.2 h
  · rename_i h
    simp only [refuseGiven_ne_ok, false_iff]
    exact h n.1

theorem check_eq (producer border low high : Value) :
    check producer border low high =
      checkProducer producer >>= fun p => checkBorder border >>= fun b =>
      checkThreshold .low low >>= fun l => checkThreshold .high high >>= fun n =>
      if h : l.1 < n.1 then .ok ⟨p, b, l.1, n.1, l.2, n.2, h⟩ else refuseConfig (.notLower l.1 n.1) := rfl

theorem check_eq_ok :
    check producer border low high = .ok o ↔
      producer = .bool o.isDiagnosticProducer ∧ border = .text o.border.name ∧ low = .number o.low ∧
        high = .number o.high := by
  rw [check_eq]
  constructor
  · intro h
    obtain ⟨p, hp, h⟩ := Outcome.bind_eq_ok.mp h
    obtain ⟨b, hb, h⟩ := Outcome.bind_eq_ok.mp h
    obtain ⟨l, hl, h⟩ := Outcome.bind_eq_ok.mp h
    obtain ⟨n, hn, h⟩ := Outcome.bind_eq_ok.mp h
    split at h
    case isTrue hlt =>
      obtain rfl := Except.ok.inj h
      exact ⟨checkProducer_eq_ok.mp hp, checkBorder_eq_ok.mp hb, checkThreshold_eq_ok.mp hl, checkThreshold_eq_ok.mp hn⟩
    case isFalse => cases h
  · rintro ⟨rfl, rfl, rfl, rfl⟩
    have hl : checkThreshold .low (.number o.low) = .ok ⟨o.low, o.low_usable⟩ := checkThreshold_eq_ok.mpr rfl
    have hn : checkThreshold .high (.number o.high) = .ok ⟨o.high, o.high_usable⟩ := checkThreshold_eq_ok.mpr rfl
    rw [checkProducer_eq_ok.mpr rfl, checkBorder_eq_ok.mpr rfl, hl, hn]
    exact dif_pos o.low_lt_high

theorem check_of_not_lt {p : Bool} {b : Border} {l n : Number} (hl : l.isUsable = true) (hn : n.isUsable = true)
    (h : ¬ l < n) : check (.bool p) (.text b.name) (.number l) (.number n) = refuseConfig (.notLower l n) := by
  have hl' : checkThreshold .low (.number l) = .ok ⟨l, hl⟩ := checkThreshold_eq_ok.mpr rfl
  have hn' : checkThreshold .high (.number n) = .ok ⟨n, hn⟩ := checkThreshold_eq_ok.mpr rfl
  rw [check_eq, checkProducer_eq_ok.mpr rfl, checkBorder_eq_ok.mpr rfl, hl', hn', Outcome.ok_bind, Outcome.ok_bind,
    Outcome.ok_bind, Outcome.ok_bind, dif_neg h]

/-- Thresholds that are in order have no part in what is refused. -/
theorem check_eq_error {l n : Number} (hl : l.isUsable = true) (hn : n.isUsable = true) (hlt : l < n) {e : Failure}
    (h : check producer border (.number l) (.number n) = .error e) (low high : Value) :
    check producer border low high = .error e := by
  rw [check_eq] at h ⊢
  rcases Outcome.bind_eq_error.mp h with hp | ⟨p, hp, h⟩
  · rw [hp]; rfl
  rcases Outcome.bind_eq_error.mp h with hb | ⟨b, hb, h⟩
  · rw [hp, hb]; rfl
  have hl' : checkThreshold .low (.number l) = .ok ⟨l, hl⟩ := checkThreshold_eq_ok.mpr rfl
  have hn' : checkThreshold .high (.number n) = .ok ⟨n, hn⟩ := checkThreshold_eq_ok.mpr rfl
  rw [hl', hn', Outcome.ok_bind, Outcome.ok_bind, dif_pos hlt] at h
  cases h

/-! ## Entries -/

theorem isKey_congr {a b : Value} (h : a.sameKey b = true) : isKey a = isKey b := by
  unfold isKey
  congr 1; funext k
  exact Value.sameKey_congr h _

theorem ofEntriesOver_eq (base : Options) (es : Entries) :
    ofEntriesOver base es =
      match es.stranger? isKey with
      | some k => refuseKey k
      | none =>
        check ((es.field? producerKey).getD (.bool base.isDiagnosticProducer))
          ((es.field? borderKey).getD (.text base.border.name))
          ((es.field? Bound.low.key).getD (.number base.low))
          ((es.field? Bound.high.key).getD (.number base.high)) := by
  rw [ofEntriesOver, ← Entries.find?_entry]
  generalize es.find? _ = found
  cases found <;> rfl

theorem refuseKey_ne_ok {α : Type} {k : Value} {a : α} : refuseKey k ≠ .ok a := by
  unfold refuseKey
  cases written k.plain? <;> simp [refuseConfig, refuse]

theorem ofEntriesOver_eq_ok :
    ofEntriesOver base es = .ok o ↔
      es.stranger? isKey = none ∧
      (es.field? producerKey).getD (.bool base.isDiagnosticProducer) = .bool o.isDiagnosticProducer ∧
      (es.field? borderKey).getD (.text base.border.name) = .text o.border.name ∧
      (es.field? Bound.low.key).getD (.number base.low) = .number o.low ∧
      (es.field? Bound.high.key).getD (.number base.high) = .number o.high := by
  rw [ofEntriesOver_eq]
  cases es.stranger? isKey with
  | some k => simp [refuseKey_ne_ok]
  | none => simp only [check_eq_ok, true_and]

/-- Options stand for the entries that they come from. -/
theorem ofEntriesOver_update (h : ofEntriesOver base es = .ok o) (hd : overrides.Distinct) :
    ofEntriesOver o overrides = ofEntriesOver base (es.update overrides) := by
  obtain ⟨hkeys, hproducer, hborder, hlow, hhigh⟩ := ofEntriesOver_eq_ok.mp h
  rw [ofEntriesOver_eq, ofEntriesOver_eq, Entries.stranger?_update isKey_congr, hkeys, Option.none_or]
  simp only [Entries.field?_update hd, Option.getD_or, hproducer, hborder, hlow, hhigh]

/-! ## Merges in a row -/

def mergeEach (o : Options) : List Entries → Options
  | [] => o
  | es :: rest =>
    match o.merged es with
    | .ok o' => mergeEach o' rest
    | .error _ => mergeEach o rest

def accepted (o : Options) : List Entries → List Entries
  | [] => []
  | es :: rest =>
    match o.merged es with
    | .ok o' => es :: accepted o' rest
    | .error _ => accepted o rest

theorem ofEntries_accepted (hm : ofEntries m = .ok o) {rows : List Entries} (hd : ∀ es ∈ rows, es.Distinct) :
    ofEntries ((accepted o rows).foldl Entries.update m) = .ok (mergeEach o rows) := by
  induction rows generalizing m o with
  | nil => exact hm
  | cons es rest ih =>
    have hrest : ∀ es ∈ rest, es.Distinct := fun es hes => hd es (List.mem_cons_of_mem _ hes)
    rw [accepted, mergeEach]
    cases hmerged : o.merged es with
    | error e => exact ih hm hrest
    | ok o' =>
      apply ih _ hrest
      rw [← hmerged]
      exact (ofEntriesOver_update hm (hd es List.mem_cons_self)).symm

/-- **To merge is to load again.** Overrides that are merged into options of a mapping end as the mapping with the
overrides put over it does, in options or in the same refusal; so do overrides after overrides. A merge that fails
leaves no trace in those that come after it. -/
theorem merged_eq_ofEntries_update (hm : ofEntries m = .ok o) (hd : overrides.Distinct) :
    o.merged overrides = ofEntries (m.update overrides) ∧
    (∀ o' later, o.merged overrides = .ok o' → later.Distinct →
      o'.merged later = o.merged (overrides.update later)) ∧
    ∀ rows : List Entries, (∀ es ∈ rows, es.Distinct) →
      ofEntries ((accepted o rows).foldl Entries.update m) = .ok (mergeEach o rows) := by
  refine ⟨ofEntriesOver_update hm hd, ?_, fun rows hrows => ofEntries_accepted hm hrows⟩
  intro o' later ho' hlater
  exact ofEntriesOver_update ho' hlater

def narrowEntries : Entries := [(.text Bound.low.key, .int 3), (.text Bound.high.key, .int 5)]

def narrow : Options := { low := 3, high := 5 }

/-- The low threshold alone would be refused over the narrow options. -/
def wideEntries : Entries := [(.text Bound.high.key, .int 20), (.text Bound.low.key, .int 10)]

def wide : Options := { low := 10, high := 20 }

def crossingEntries : Entries := [(.text Bound.low.key, .int 30)]

theorem merged_eq_ofEntries_update_narrow :
    narrow.merged wideEntries = ofEntries (narrowEntries.update wideEntries) ∧ narrow.merged wideEntries = .ok wide ∧
    wide.merged crossingEntries = narrow.merged (wideEntries.update crossingEntries) ∧
    ofEntries ((accepted narrow [crossingEntries, wideEntries]).foldl Entries.update narrowEntries) =
      .ok (mergeEach narrow [crossingEntries, wideEntries]) := by
  have hnarrow : ofEntries narrowEntries = .ok narrow := ofEntriesOver_eq_ok.mpr ⟨rfl, rfl, rfl, rfl, rfl⟩
  have hwide : narrow.merged wideEntries = .ok wide := ofEntriesOver_eq_ok.mpr ⟨rfl, rfl, rfl, rfl, rfl⟩
  have hdistinct : wideEntries.Distinct := by decide
  have hcrossing : crossingEntries.Distinct := by decide
  obtain ⟨hload, hlater, hrows⟩ := merged_eq_ofEntries_update hnarrow hdistinct
  refine ⟨hload, hwide, hlater wide crossingEntries hwide hcrossing, hrows _ ?_⟩
  intro es hes
  rcases List.mem_pair.mp hes with rfl | rfl
  · exact hcrossing
  · exact hdistinct

end Options

end FunctionMetrics
