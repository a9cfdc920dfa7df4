import FunctionMetrics.Options.Given
import FunctionMetrics.Proofs.Options.Merge
import FunctionMetrics.Proofs.Value.Literal

/-!
# Options that are refused

Of the keys and values of a mapping the first one that is wrong is told: an unknown key before any value is looked at,
then the settings in their order. It cannot be told if it holds a whole number with too many digits, and neither can a
threshold beyond all floating point numbers.
-/

namespace FunctionMetrics

namespace Options

variable {α β : Type} {v : Value} {es : Entries}

/-! ## Told refusals -/

/-- Whatever fails is told as a problem of the configuration. -/
def IsTold (x : Outcome α) : Prop := x.FailsWith fun e => ∃ p, e = .problem (.config p)

@[simp] theorem isTold_ok (a : α) : IsTold (.ok a : Outcome α) := Outcome.failsWith_ok a

@[simp] theorem isTold_refuseConfig (p : ConfigProblem) : IsTold (refuseConfig p : Outcome α) :=
  Outcome.failsWith_error.mpr ⟨p, rfl⟩

@[simp] theorem not_isTold_fail (f : Fault) : ¬ IsTold (fail f : Outcome α) := by
  intro h
  obtain ⟨p, hp⟩ := Outcome.failsWith_error.mp h
  cases hp

theorem isTold_bind {x : Outcome α} {f : α → Outcome β} :
    IsTold (x >>= f) ↔ IsTold x ∧ ∀ a, x = .ok a → IsTold (f a) := Outcome.failsWith_bind

theorem isTold_written {text : Option String} : IsTold (written text) ↔ text.isSome = true := by
  cases text <;> simp [written]

theorem isTold_refuseGiven {problem : String → ConfigProblem} :
    IsTold (refuseGiven v problem : Outcome α) ↔ v.literal?.isSome = true := by
  simp [refuseGiven, isTold_bind, isTold_written]

theorem isTold_refuseKey {k : Value} : IsTold (refuseKey k : Outcome α) ↔ k.literal?.isSome = true := by
  simp [refuseKey, isTold_bind, isTold_written, Value.plain?_isSome]

theorem checkThreshold_of_not_usable {b : Bound} {n : Number} (h : ¬ n.isUsable = true) :
    checkThreshold b (.number n) = refuseThreshold b n := dif_neg h

/-! ## Settings -/

inductive Setting
  | producer
  | border
  | threshold (b : Bound)

namespace Setting

def all : List Setting := [.producer, .border, .threshold .low, .threshold .high]

def key : Setting → String
  | .producer => producerKey
  | .border => borderKey
  | .threshold b => b.key

def accepts : Setting → Value → Bool
  | .producer, .bool _ => true
  | .border, .text s => (Border.ofName? s).isSome
  | .threshold _, .number n => n.isUsable
  | _, _ => false

/-- A value has a literal and, in the place of a threshold, is no whole number. -/
def CanTell (s : Setting) (v : Value) : Prop := v.literal?.isSome = true ∧ ∀ b n, s = .threshold b → v ≠ .int n

def valueIn (es : Entries) (s : Setting) : Value :=
  (es.field? s.key).getD ((default.toEntries.field? s.key).getD .null)

def refused? (es : Entries) : Option Setting := all.find? fun s => ! s.accepts (s.valueIn es)

/-- A check goes well exactly with a value that its setting accepts, and tells any other one that can be told. -/
structure Checks (s : Setting) (v : Value) (x : Outcome α) : Prop where
  accepts_iff : s.accepts v = true ↔ ∃ a, x = .ok a
  isTold_iff : s.accepts v = false → (IsTold x ↔ s.CanTell v)

theorem checks_producer (v : Value) : Checks .producer v (checkProducer v) where
  accepts_iff := by
    simp only [checkProducer_eq_ok]
    cases v <;> simp [accepts]
  isTold_iff h := by
    have hrefuse : checkProducer v = refuseGiven v .producerNotBool := by
      unfold checkProducer
      split
      case h_1 => cases h
      case h_2 => rfl
    simp [hrefuse, isTold_refuseGiven, CanTell]

theorem checks_border (v : Value) : Checks .border v (checkBorder v) where
  accepts_iff := by
    simp only [checkBorder_eq_ok]
    cases v <;> simp [accepts, Option.isSome_iff_exists, Border.ofName?_eq_some]
  isTold_iff h := by
    have hrefuse : checkBorder v = refuseGiven v (.unknownBorder (Border.all.map Border.name)) := by
      unfold checkBorder
      split
      case h_1 s =>
        rw [accepts, Option.isSome_eq_false_iff, Option.isNone_iff_eq_none] at h
        rw [h]
      case h_2 => rfl
    simp [hrefuse, isTold_refuseGiven, CanTell]

theorem checks_threshold (b : Bound) (v : Value) : Checks (.threshold b) v (checkThreshold b v) where
  accepts_iff := by
    simp only [checkThreshold_eq_ok]
    cases v <;> simp [accepts]
  isTold_iff h := by
    by_cases hnumber : ∃ n, v = .number n
    case pos =>
      obtain ⟨n, rfl⟩ := hnumber
      have husable : ¬ n.isUsable = true := Bool.eq_false_iff.mp h
      rw [checkThreshold_of_not_usable husable]
      cases n <;> simp [refuseThreshold, CanTell, Value.int, Value.literal?, Value.literalWith, Number.text?]
    case neg =>
      have hrefuse : checkThreshold b v = refuseGiven v (.notANumber b) := by
        unfold checkThreshold
        split
        case h_1 n => exact absurd ⟨n, rfl⟩ hnumber
        case h_2 => rfl
      rw [hrefuse, isTold_refuseGiven, CanTell, iff_self_and]
      rintro _ _ n _ rfl
      exact hnumber ⟨_, rfl⟩

/-- After a check all hangs on it if it goes well, and on its refusal if it does not. -/
theorem Checks.isTold_bind {s : Setting} {x : Outcome α} {f : α → Outcome β} {P : Prop} (h : Checks s v x)
    (hf : ∀ a, x = .ok a → (IsTold (f a) ↔ P)) : IsTold (x >>= f) ↔ if s.accepts v then P else s.CanTell v := by
  cases hx : s.accepts v with
  | true =>
    obtain ⟨a, rfl⟩ := h.accepts_iff.mp hx
    exact hf a rfl
  | false =>
    have hnone : ∀ a, x ≠ .ok a := by
      intro a ha
      rw [h.accepts_iff.mpr ⟨a, ha⟩] at hx
      cases hx
    rw [Options.isTold_bind, h.isTold_iff hx]
    simp [hnone]

theorem forall_refused_cons (p : Setting → Prop) (s : Setting) (rest : List Setting) :
    (∀ t, (s :: rest).find? (fun s => ! s.accepts (s.valueIn es)) = some t → p t) ↔
      if s.accepts (s.valueIn es) then ∀ t, rest.find? (fun s => ! s.accepts (s.valueIn es)) = some t → p t
      else p s := by
  rw [List.find?_cons]
  cases s.accepts (s.valueIn es) <;> simp

theorem isTold_check (es : Entries) :
    IsTold (check (valueIn es .producer) (valueIn es .border) (valueIn es (.threshold .low))
      (valueIn es (.threshold .high))) ↔ ∀ s, refused? es = some s → s.CanTell (s.valueIn es) := by
  have hlast : ∀ (producer : Bool) (border : Border) (low high : Threshold),
      IsTold (if h : low.1 < high.1 then
        (.ok ⟨producer, border, low.1, high.1, low.2, high.2, h⟩ : Outcome Options)
        else refuseConfig (.notLower low.1 high.1)) ↔ True := by
    intro producer border low high
    split <;> simp
  unfold refused? all
  rw [check_eq]
  simp only [forall_refused_cons]
  apply (checks_producer _).isTold_bind
  intro producer _
  apply (checks_border _).isTold_bind
  intro border _
  apply (checks_threshold .low _).isTold_bind
  intro low _
  apply (checks_threshold .high _).isTold_bind
  intro high _
  rw [hlast]
  simp

end Setting

/-! ## Mappings -/

theorem ofValue_map (es : Entries) : ofValue (.map es) = ofEntries es := by
  have hentries : Value.toEntries (.map es) = .ok es := by
    cases es <;> rfl
  rw [ofValue, hentries, Outcome.ok_bind]

theorem ofEntries_eq (es : Entries) :
    ofEntries es =
      match es.stranger? isKey with
      | some k => refuseKey k
      | none => check (Setting.valueIn es .producer) (Setting.valueIn es .border) (Setting.valueIn es (.threshold .low))
          (Setting.valueIn es (.threshold .high)) := by
  rw [ofEntries, ofEntriesOver_eq]
  rfl

theorem isTold_ofValue :
    IsTold (ofValue (.map es)) ↔
      (∀ k, es.stranger? isKey = some k → k.literal?.isSome = true) ∧
      (es.stranger? isKey = none → ∀ s, Setting.refused? es = some s → s.CanTell (s.valueIn es)) := by
  rw [ofValue_map, ofEntries_eq]
  cases es.stranger? isKey with
  | some k => simp [isTold_refuseKey]
  | none => simp [Setting.isTold_check]

/-! ## Other failures -/

/-- A problem of the configuration, a whole number with too many digits, or a threshold that is too large. -/
def IsRefusal (e : Failure) : Prop :=
  (∃ p, e = .problem (.config p)) ∨ e = .fault .unwritable ∨ e = .fault .thresholdTooLarge

theorem refusal_refuseConfig (p : ConfigProblem) : (refuseConfig p : Outcome α).FailsWith IsRefusal :=
  Outcome.failsWith_error.mpr (.inl ⟨p, rfl⟩)

theorem refusal_written (text : Option String) : (written text).FailsWith IsRefusal := by
  cases text with
  | some s => exact Outcome.failsWith_ok s
  | none => exact Outcome.failsWith_error.mpr (.inr (.inl rfl))

theorem refusal_refuseGiven (v : Value) (problem : String → ConfigProblem) :
    (refuseGiven v problem : Outcome α).FailsWith IsRefusal :=
  Outcome.failsWith_bind.mpr ⟨refusal_written _, fun _ _ => refusal_refuseConfig _⟩

theorem refusal_refuseKey (k : Value) : (refuseKey k : Outcome α).FailsWith IsRefusal :=
  Outcome.failsWith_bind.mpr ⟨refusal_written _, fun _ _ => refusal_refuseConfig _⟩

theorem refusal_checkProducer (v : Value) : (checkProducer v).FailsWith IsRefusal := by
  unfold checkProducer
  split
  · exact Outcome.failsWith_ok _
  · exact refusal_refuseGiven _ _

theorem refusal_checkBorder (v : Value) : (checkBorder v).FailsWith IsRefusal := by
  unfold checkBorder
  split
  · split
    · exact Outcome.failsWith_ok _
    · exact refusal_refuseGiven _ _
  · exact refusal_refuseGiven _ _

theorem refusal_checkThreshold (b : Bound) (v : Value) : (checkThreshold b v).FailsWith IsRefusal := by
  unfold checkThreshold
  split
  case h_1 n =>
    split
    · exact Outcome.failsWith_ok _
    · cases n with
      | int n => exact Outcome.failsWith_error.mpr (.inr (.inr rfl))
      | float x => exact refusal_refuseConfig _
  case h_2 => exact refusal_refuseGiven _ _

theorem refusal_check (producer border low high : Value) : (check producer border low high).FailsWith IsRefusal := by
  rw [check_eq]
  refine Outcome.failsWith_bind.mpr ⟨refusal_checkProducer _, fun producer _ => ?_⟩
  refine Outcome.failsWith_bind.mpr ⟨refusal_checkBorder _, fun border _ => ?_⟩
  refine Outcome.failsWith_bind.mpr ⟨refusal_checkThreshold .low _, fun low _ => ?_⟩
  refine Outcome.failsWith_bind.mpr ⟨refusal_checkThreshold .high _, fun high _ => ?_⟩
  split
  · exact Outcome.failsWith_ok _
  · exact refusal_refuseConfig _

theorem refusal_ofValue (es : Entries) : (ofValue (.map es)).FailsWith IsRefusal := by
  rw [ofValue_map, ofEntries_eq]
  split
  · exact refusal_refuseKey _
  · exact refusal_check _ _ _ _

/-! ## Short mappings -/

theorem stranger?_of_first {before after : Entries} {k : Value} (hbefore : ∀ e ∈ before, isKey e.1 = true)
    (hk : isKey k = false) : (before ++ (k, v) :: after).stranger? isKey = some k := by
  induction before with
  | nil => rw [List.nil_append, Entries.stranger?_cons, hk]; rfl
  | cons e rest ih =>
    rw [List.cons_append, Entries.stranger?_cons, if_pos (hbefore e List.mem_cons_self)]
    exact ih fun e he => hbefore e (List.mem_cons_of_mem _ he)

theorem refuseKey_of_plain {k : Value} {text : String} (h : k.plain? = some text) :
    (refuseKey k : Outcome α) = refuseConfig (.unknownOption k text) := by
  unfold refuseKey
  rw [h]; rfl

theorem literal?_valueIn (hshort : ∀ e ∈ es, e.2.IsShort) (s : Setting) :
    (s.valueIn es).literal?.isSome = true := by
  unfold Setting.valueIn
  cases hfield : es.field? s.key with
  | some v =>
    obtain ⟨k, hv⟩ := Entries.mem_of_get? hfield
    exact Value.literal?_isSome_of_isShort (hshort _ hv)
  | none =>
    cases s with
    | producer => rfl
    | border => rfl
    | threshold b => cases b <;> rfl

theorem isTold_of_short (hshort : ∀ e ∈ es, e.1.IsShort ∧ e.2.IsShort)
    (hsmall : ∀ b n, (Setting.threshold b).valueIn es = .int n → n.natAbs < Binary64.overflow) :
    IsTold (ofValue (.map es)) := by
  rw [isTold_ofValue]
  constructor
  · intro k hk
    obtain ⟨e, he, rfl⟩ := List.mem_map.mp (List.mem_of_find?_eq_some hk)
    exact Value.literal?_isSome_of_isShort (hshort e he).1
  · intro _ s hs
    refine ⟨literal?_valueIn (fun e he => (hshort e he).2) s, ?_⟩
    rintro b n rfl hn
    have hrefused := List.find?_some hs
    have husable : (Binary64.ofInt? n).isSome = true := Binary64.ofInt?_isSome_iff.mpr (hsmall b n hn)
    simp [hn, Setting.accepts, Value.int, Number.isUsable, husable] at hrefused

/-- **A mapping is refused in words.** The first unknown key is told, whatever the values are. What is wrong with a
mapping is told unless it is a whole number with too many digits that would have to be shown, or a whole number beyond
all floating point numbers as a threshold; short values and small thresholds are always told. -/
theorem invalid_mapping_is_told (es : Entries) :
    (∀ before k v after text, es = before ++ (k, v) :: after → (∀ e ∈ before, isKey e.1 = true) → isKey k = false →
      k.plain? = some text → ofValue (.map es) = refuseConfig (.unknownOption k text)) ∧
    (IsTold (ofValue (.map es)) ↔
      (∀ k, es.stranger? isKey = some k → k.literal?.isSome = true) ∧
      (es.stranger? isKey = none → ∀ s, Setting.refused? es = some s → s.CanTell (s.valueIn es))) ∧
    ((∀ e ∈ es, e.1.IsShort ∧ e.2.IsShort) →
      (∀ b n, (Setting.threshold b).valueIn es = .int n → n.natAbs < Binary64.overflow) →
      IsTold (ofValue (.map es))) ∧
    ∀ e, ofValue (.map es) = .error e →
      (∃ p, e = .problem (.config p)) ∨ e = .fault .unwritable ∨ e = .fault .thresholdTooLarge := by
  refine ⟨?_, isTold_ofValue, isTold_of_short, refusal_ofValue es⟩
  rintro before k v after text rfl hbefore hk htext
  rw [ofValue_map, ofEntries_eq, stranger?_of_first hbefore hk]
  exact refuseKey_of_plain htext

def huge : Int := 10 ^ 400

/-- The value before the unknown key is wrong, and the one behind it cannot be told. -/
def strangeEntries : Entries := [(.text borderKey, .list []), (.int 3, .null), (.text Bound.low.key, .int huge)]

theorem invalid_mapping_is_told_strange :
    ofValue (.map strangeEntries) = refuseConfig (.unknownOption (.int 3) "3") := by
  have hsplit : strangeEntries =
      [(.text borderKey, .list [])] ++ (.int 3, .null) :: [(.text Bound.low.key, .int huge)] := rfl
  have hbefore : ∀ e ∈ [(Value.text borderKey, Value.list [])], isKey e.1 = true := by decide
  exact (invalid_mapping_is_told strangeEntries).1 _ _ _ _ "3" hsplit hbefore (by decide) (by decide +kernel)

def hugeEntries : Entries := [(.text Bound.low.key, .int huge)]

theorem ofValue_low (v : Value) :
    ofValue (.map [(.text Bound.low.key, v)]) = check (.bool false) (.text Border.rounded.name) v (.number 12) := rfl

theorem huge_threshold_not_told :
    ofValue (.map hugeEntries) = fail .thresholdTooLarge ∧ ¬ IsTold (ofValue (.map hugeEntries)) := by
  have hlarge : ¬ Number.isUsable (.int huge) = true := by
    rw [Number.isUsable, Binary64.ofInt?_isSome_iff]
    decide +kernel
  have hlow : checkThreshold .low (.int huge) = fail .thresholdTooLarge := checkThreshold_of_not_usable hlarge
  have hfault : ofValue (.map hugeEntries) = fail .thresholdTooLarge := by
    rw [hugeEntries, ofValue_low, check_eq, checkProducer_eq_ok.mpr rfl, checkBorder_eq_ok.mpr rfl, hlow]
    rfl
  exact ⟨hfault, hfault ▸ not_isTold_fail _⟩

end Options

end FunctionMetrics
