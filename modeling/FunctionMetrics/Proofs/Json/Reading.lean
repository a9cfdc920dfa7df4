import FunctionMetrics.Proofs.Json.Scalars

/-!
# Documents that are read

A document of the grammar is read as the value that it spells. The reader has fuel for every part of a text, since a
part is shorter than the whole.
-/

namespace FunctionMetrics.Json

open Text

/-! ## Blanks -/

theorem skipSpace_append {ws cs : List Char} (hws : IsBlank ws) (hcs : ∀ c ∈ cs.head?, isSpace c = false) :
    skipSpace (ws ++ cs) = cs := by
  rw [skipSpace, List.dropWhile_append_of_pos hws]
  cases cs with
  | nil => rfl
  | cons c cs => simp [hcs c (by simp)]

theorem skipSpace_blank {ws : List Char} (hws : IsBlank ws) : skipSpace ws = [] := by
  have hskip : skipSpace (ws ++ []) = [] := skipSpace_append hws (by simp)
  rwa [List.append_nil] at hskip

theorem stops_append {ws rest : List Char} (hws : IsBlank ws) (hrest : Stops rest) : Stops (ws ++ rest) := by
  cases ws with
  | nil => exact hrest
  | cons c ws =>
    intro d hd
    obtain rfl : c = d := by simpa using hd
    exact .inl (hws c (by simp))

theorem stops_cons {c : Char} (hc : c = ',' ∨ c = ']' ∨ c = '\x7d') (rest : List Char) : Stops (c :: rest) := by
  intro d hd
  obtain rfl : c = d := by simpa using hd
  exact .inr hc

theorem stops_nil : Stops [] := by
  intro c hc
  cases hc

/-! ## The start of a value -/

/-- How a value starts: not with a blank or a mark of the byte order, and not as a list or a map ends. -/
def Opens (cs : List Char) : Prop :=
  ∃ c tail, cs = c :: tail ∧ isSpace c = false ∧ c ≠ ']' ∧ c ≠ '\x7d' ∧ c ≠ '\uFEFF'

theorem Opens.not_isSpace {cs : List Char} (h : Opens cs) (rest : List Char) :
    ∀ c ∈ (cs ++ rest).head?, isSpace c = false := by
  obtain ⟨c, tail, rfl, hspace, -⟩ := h
  intro d hd
  obtain rfl : c = d := by simpa using hd
  exact hspace

theorem SpellsNumber.exists_cons {fits : Nat → Prop} {cs : List Char} {n : Number} (h : SpellsNumber fits cs n) :
    ∃ c tail, cs = c :: tail ∧ (c = '-' ∨ isAsciiDigit c = true) := by
  have hsigned : ∀ {negative ds tail}, IsWhole ds →
      ∃ c tail', signed negative (ds ++ tail) = c :: tail' ∧ (c = '-' ∨ isAsciiDigit c = true) := by
    intro negative ds tail h
    obtain ⟨d, ds, rfl⟩ := List.exists_cons_of_ne_nil h.1.1
    cases negative with
    | true => exact ⟨'-', _, rfl, .inl rfl⟩
    | false => exact ⟨d, _, rfl, .inr (h.1.2 d (by simp))⟩
  cases h with
  | @whole negative ds h =>
    rw [← List.append_nil ds]
    exact hsigned h
  | decimal h =>
    simp only [List.append_assoc]
    exact hsigned h

theorem Spells.opens {fits : Nat → Prop} {cs : List Char} {v : Value} (h : Spells fits cs v) : Opens cs := by
  cases h with
  | null => exact ⟨'n', _, rfl, by decide⟩
  | bool b => cases b <;> exact ⟨_, _, rfl, by decide⟩
  | number h =>
    obtain ⟨c, tail, rfl, hc⟩ := h.exists_cons
    refine ⟨c, tail, rfl, ?_⟩
    rcases hc with rfl | hc
    · decide
    · have hne : ∀ d, isAsciiDigit d = false → c ≠ d := fun d hd => (ne_of_isAsciiDigit hd hc).symm
      exact ⟨by simp [isSpace, hne ' ', hne '\t', hne '\n', hne '\r', isAsciiDigit], hne ']' rfl, hne '\x7d' rfl,
        hne '\uFEFF' rfl⟩
  | text | noItems | list | noFields | map => exact ⟨_, _, rfl, by decide⟩

/-! ## Lists and maps -/

theorem exists_commas_cons (p : List Char) (ps : List (List Char)) : ∃ more, commas (p :: ps) = p ++ more := by
  cases ps with
  | nil => exact ⟨[], (List.append_nil p).symm⟩
  | cons q rest => exact ⟨_, rfl⟩

structure Item.IsRead (x : Item) : Prop where
  before : IsBlank x.before
  after : IsBlank x.after
  opens : Opens x.text
  reads : ∀ fuel rest, x.text.length ≤ fuel → Stops rest → readValue fuel (x.text ++ rest) = .ok (x.value, rest)

/-- Behind the value of an item and its blanks the text goes on as it does behind the item. -/
theorem Item.IsRead.readValue_eq {x : Item} (h : x.IsRead) {fuel : Nat} (hfuel : x.chars.length ≤ fuel) {c : Char}
    (hc : c = ',' ∨ c = ']' ∨ c = '\x7d') (rest : List Char) :
    ∃ behind, readValue fuel (skipSpace (x.chars ++ c :: rest)) = .ok (x.value, behind) ∧
      skipSpace behind = c :: rest := by
  have hstops : Stops (x.after ++ c :: rest) := stops_append h.after (stops_cons hc rest)
  have hspace : isSpace c = false := by rcases hc with rfl | rfl | rfl <;> decide
  have hlength : x.text.length ≤ fuel := by
    simp only [Item.chars, List.length_append] at hfuel
    omega
  refine ⟨x.after ++ c :: rest, ?_, skipSpace_append h.after (by simpa using hspace)⟩
  simp only [Item.chars, List.append_assoc]
  rw [skipSpace_append h.before (h.opens.not_isSpace _)]
  exact h.reads fuel _ hlength hstops

theorem Item.IsRead.not_closed {x : Item} (h : x.IsRead) (xs : List Item) (rest after : List Char) :
    skipSpace (commas ((x :: xs).map Item.chars) ++ rest) ≠ ']' :: after := by
  obtain ⟨more, hmore⟩ := exists_commas_cons x.chars (xs.map Item.chars)
  obtain ⟨c, tail, htext, hspace, hclose, -⟩ := h.opens
  have hskip : skipSpace (commas ((x :: xs).map Item.chars) ++ rest) = x.text ++ (x.after ++ (more ++ rest)) := by
    rw [List.map_cons, hmore]
    simp only [Item.chars, List.append_assoc]
    exact skipSpace_append h.before (h.opens.not_isSpace _)
  rw [hskip, htext]
  intro heq
  exact hclose (List.cons.inj heq).1

theorem readItems_last {x : Item} (h : x.IsRead) {fuel : Nat} (hfuel : x.chars.length ≤ fuel) (rest : List Char) :
    readItems (fuel + 1) (skipSpace (x.chars ++ ']' :: rest)) = .ok ([x.value], rest) := by
  obtain ⟨behind, hvalue, hbehind⟩ := h.readValue_eq hfuel (.inr (.inl rfl)) rest
  simp [readItems, hvalue, hbehind, bind, Except.bind]

theorem readItems_more {x : Item} (h : x.IsRead) {fuel : Nat} (hfuel : x.chars.length ≤ fuel) (rest : List Char) :
    readItems (fuel + 1) (skipSpace (x.chars ++ ',' :: rest)) =
      (readItems fuel (skipSpace rest)).map fun (xs, r) => (x.value :: xs, r) := by
  obtain ⟨behind, hvalue, hbehind⟩ := h.readValue_eq hfuel (.inl rfl) rest
  simp only [readItems, hvalue, hbehind, bind, Except.bind]
  cases readItems fuel (skipSpace rest) <;> rfl

theorem readItems_of_isRead {x : Item} {xs : List Item} (h : ∀ y ∈ x :: xs, y.IsRead) {fuel : Nat}
    (hfuel : (commas ((x :: xs).map Item.chars)).length < fuel) (rest : List Char) :
    readItems fuel (skipSpace (commas ((x :: xs).map Item.chars) ++ ']' :: rest)) =
      .ok ((x :: xs).map Item.value, rest) := by
  obtain ⟨fuel, rfl⟩ := Nat.exists_eq_succ_of_ne_zero (Nat.ne_of_gt (Nat.zero_lt_of_lt hfuel))
  induction xs generalizing x fuel with
  | nil => exact readItems_last (h x (by simp)) (Nat.le_of_lt_succ hfuel) rest
  | cons y ys ih =>
    simp only [List.map_cons, commas, List.length_append, List.length_cons] at hfuel
    have hys : ∀ z ∈ y :: ys, z.IsRead := fun z hz => h z (List.mem_cons_of_mem x hz)
    obtain ⟨fuel, rfl⟩ : ∃ n, fuel = n + 1 := ⟨fuel - 1, by omega⟩
    have hrest := ih hys fuel (by simp only [List.map_cons]; omega)
    simp only [List.map_cons, commas, List.append_assoc, List.cons_append] at hrest ⊢
    rw [readItems_more (h x (by simp)) (by omega), hrest]
    rfl

/-! ## Maps -/

structure Field.IsRead (x : Field) : Prop where
  before : IsBlank x.before
  key : SpellsChars x.key x.name
  between : IsBlank x.between
  item : x.item.IsRead

theorem Field.IsRead.skipSpace_eq {x : Field} (h : x.IsRead) (rest : List Char) :
    skipSpace (x.chars ++ rest) = '\"' :: (x.key ++ '\"' :: (x.between ++ ':' :: (x.item.chars ++ rest))) := by
  simp only [Field.chars, List.append_assoc, List.cons_append]
  exact skipSpace_append h.before (by simp [isSpace])

theorem Field.IsRead.not_closed {x : Field} (h : x.IsRead) (xs : List Field) (rest after : List Char) :
    skipSpace (commas ((x :: xs).map Field.chars) ++ rest) ≠ '\x7d' :: after := by
  obtain ⟨more, hmore⟩ := exists_commas_cons x.chars (xs.map Field.chars)
  rw [List.map_cons, hmore, List.append_assoc, h.skipSpace_eq]
  simp

section

variable {x : Field} (h : x.IsRead) {fuel : Nat} (hfuel : x.chars.length ≤ fuel)

include h hfuel

theorem readEntries_eq {c : Char} (hc : c = ',' ∨ c = ']' ∨ c = '\x7d') (rest : List Char) :
    readEntries (fuel + 1) (skipSpace (x.chars ++ c :: rest)) =
      match c :: rest with
      | '\x7d' :: after => .ok ([x.entry], after)
      | ',' :: after => (readEntries fuel (skipSpace after)).map fun (es, r) => (x.entry :: es, r)
      | r => .error (.malformed .comma r) := by
  have hlength : x.item.chars.length ≤ fuel := by
    simp only [Field.chars, List.length_append, List.length_cons] at hfuel
    omega
  obtain ⟨behind, hvalue, hbehind⟩ := h.item.readValue_eq hlength hc rest
  have hcolon : skipSpace (x.between ++ ':' :: (x.item.chars ++ c :: rest)) = ':' :: (x.item.chars ++ c :: rest) :=
    skipSpace_append h.between (by simp [isSpace])
  rw [h.skipSpace_eq, readEntries, readString_of_spells _ h.key]
  simp only [bind, Except.bind, hcolon, hvalue, hbehind, ofCodes_ofChars]
  rcases hc with rfl | rfl | rfl
  · cases readEntries fuel (skipSpace rest) <;> rfl
  · rfl
  · rfl

theorem readEntries_last (rest : List Char) :
    readEntries (fuel + 1) (skipSpace (x.chars ++ '\x7d' :: rest)) = .ok ([x.entry], rest) :=
  readEntries_eq h hfuel (.inr (.inr rfl)) rest

theorem readEntries_more (rest : List Char) :
    readEntries (fuel + 1) (skipSpace (x.chars ++ ',' :: rest)) =
      (readEntries fuel (skipSpace rest)).map fun (es, r) => (x.entry :: es, r) :=
  readEntries_eq h hfuel (.inl rfl) rest

end

theorem readEntries_of_isRead {x : Field} {xs : List Field} (h : ∀ y ∈ x :: xs, y.IsRead) {fuel : Nat}
    (hfuel : (commas ((x :: xs).map Field.chars)).length < fuel) (rest : List Char) :
    readEntries fuel (skipSpace (commas ((x :: xs).map Field.chars) ++ '\x7d' :: rest)) =
      .ok ((x :: xs).map Field.entry, rest) := by
  obtain ⟨fuel, rfl⟩ := Nat.exists_eq_succ_of_ne_zero (Nat.ne_of_gt (Nat.zero_lt_of_lt hfuel))
  induction xs generalizing x fuel with
  | nil => exact readEntries_last (h x (by simp)) (Nat.le_of_lt_succ hfuel) rest
  | cons y ys ih =>
    simp only [List.map_cons, commas, List.length_append, List.length_cons] at hfuel
    have hys : ∀ z ∈ y :: ys, z.IsRead := fun z hz => h z (List.mem_cons_of_mem x hz)
    obtain ⟨fuel, rfl⟩ : ∃ n, fuel = n + 1 := ⟨fuel - 1, by omega⟩
    have hrest := ih hys fuel (by simp only [List.map_cons]; omega)
    simp only [List.map_cons, commas, List.append_assoc, List.cons_append] at hrest ⊢
    rw [readEntries_more (h x (by simp)) (by omega), hrest]
    rfl

/-! ## Values -/

theorem readValue_scalar {c : Char} (hquote : c ≠ '\"') (hlist : c ≠ '[') (hmap : c ≠ '\x7b') (fuel : Nat)
    (tail : List Char) : readValue (fuel + 1) (c :: tail) = readScalar (c :: tail) := by
  rw [readValue.eq_def]
  simp [hquote, hlist, hmap]

theorem readValue_list {body after : List Char} (hbody : skipSpace body = ']' :: after) (fuel : Nat) :
    readValue (fuel + 1) ('[' :: body) = .ok (.list [], after) := by
  rw [readValue.eq_def]
  simp [hbody]

theorem readValue_items {body : List Char} (hbody : ∀ after, skipSpace body ≠ ']' :: after) (fuel : Nat) :
    readValue (fuel + 1) ('[' :: body) = (readItems fuel (skipSpace body)).map fun (xs, r) => (.list xs, r) := by
  rw [readValue.eq_def]
  simp only

theorem readValue_map {body after : List Char} (hbody : skipSpace body = '\x7d' :: after) (fuel : Nat) :
    readValue (fuel + 1) ('\x7b' :: body) = .ok (.map [], after) := by
  rw [readValue.eq_def]
  simp [hbody]

theorem readValue_entries {body : List Char} (hbody : ∀ after, skipSpace body ≠ '\x7d' :: after) (fuel : Nat) :
    readValue (fuel + 1) ('\x7b' :: body) =
      (readEntries fuel (skipSpace body)).map fun (es, r) => (.map (Entries.ofList es), r) := by
  rw [readValue.eq_def]
  simp only

theorem readValue_of_spells {cs : List Char} {v : Value} (h : Spells (· ≤ Number.maxDigits) cs v) :
    ∀ fuel rest, cs.length ≤ fuel → Stops rest → readValue fuel (cs ++ rest) = .ok (v, rest) := by
  induction h with
  | null =>
    intro fuel rest hfuel hrest
    obtain ⟨fuel, rfl⟩ : ∃ n, fuel = n + 1 := ⟨fuel - 1, by simp at hfuel; omega⟩
    exact (readValue_scalar (by decide) (by decide) (by decide) fuel _).trans (readScalar_null rest)
  | bool b =>
    intro fuel rest hfuel hrest
    obtain ⟨fuel, rfl⟩ : ∃ n, fuel = n + 1 := ⟨fuel - 1, by cases b <;> simp at hfuel <;> omega⟩
    rw [← readScalar_bool b rest]
    cases b <;> exact readValue_scalar (by decide) (by decide) (by decide) fuel _
  | number h =>
    intro fuel rest hfuel hrest
    have hread := readScalar_of_spells h hrest
    obtain ⟨c, tail, rfl, hc⟩ := h.exists_cons
    have hne : ∀ d, d ≠ '-' → isAsciiDigit d = false → c ≠ d := by
      rintro d hminus hd rfl
      rcases hc with rfl | hc
      · exact hminus rfl
      · rw [hc] at hd; cases hd
    obtain ⟨fuel, rfl⟩ : ∃ n, fuel = n + 1 := ⟨fuel - 1, by simp at hfuel; omega⟩
    rw [← hread]
    exact readValue_scalar (hne _ (by decide) rfl) (hne _ (by decide) rfl) (hne _ (by decide) rfl) fuel _
  | text h =>
    intro fuel rest hfuel hrest
    obtain ⟨fuel, rfl⟩ : ∃ n, fuel = n + 1 := ⟨fuel - 1, by simp at hfuel; omega⟩
    simp only [List.cons_append, List.append_assoc, List.nil_append]
    rw [readValue, readString_of_spells _ h, ← ofCodes_ofChars]
    rfl
  | noItems hws =>
    intro fuel rest hfuel hrest
    obtain ⟨fuel, rfl⟩ : ∃ n, fuel = n + 1 := ⟨fuel - 1, by simp at hfuel; omega⟩
    simp only [List.cons_append, List.append_assoc, List.nil_append]
    exact readValue_list (skipSpace_append hws (by simp [isSpace])) fuel
  | @list x xs hblank h ih =>
    intro fuel rest hfuel hrest
    have hread : ∀ y ∈ x :: xs, y.IsRead := fun y hy => ⟨(hblank y hy).1, (hblank y hy).2, (h y hy).opens, ih y hy⟩
    obtain ⟨fuel, rfl⟩ : ∃ n, fuel = n + 1 := ⟨fuel - 1, by simp at hfuel; omega⟩
    simp only [List.cons_append, List.append_assoc, List.nil_append, List.length_cons, List.length_append,
      List.length_nil] at hfuel ⊢
    rw [readValue_items ((hread x (by simp)).not_closed _ _) fuel, readItems_of_isRead hread (by omega)]
    rfl
  | noFields hws =>
    intro fuel rest hfuel hrest
    obtain ⟨fuel, rfl⟩ : ∃ n, fuel = n + 1 := ⟨fuel - 1, by simp at hfuel; omega⟩
    simp only [List.cons_append, List.append_assoc, List.nil_append]
    exact readValue_map (skipSpace_append hws (by simp [isSpace])) fuel
  | @map x xs hblank hkey h ih =>
    intro fuel rest hfuel hrest
    have hread : ∀ y ∈ x :: xs, y.IsRead := by
      intro y hy
      obtain ⟨hbefore, hbetween, hitem, hitem'⟩ := hblank y hy
      exact ⟨hbefore, hkey y hy, hbetween, ⟨hitem, hitem', (h y hy).opens, ih y hy⟩⟩
    obtain ⟨fuel, rfl⟩ : ∃ n, fuel = n + 1 := ⟨fuel - 1, by simp at hfuel; omega⟩
    simp only [List.cons_append, List.append_assoc, List.nil_append, List.length_cons, List.length_append,
      List.length_nil] at hfuel ⊢
    rw [readValue_entries ((hread x (by simp)).not_closed _ _) fuel, readEntries_of_isRead hread (by omega)]
    rfl

/-! ## Documents -/

/-- A document whose whole numbers are short enough is read as the value that it spells. -/
theorem read_of_isDocument {text : String} {v : Value} (h : IsDocument (· ≤ Number.maxDigits) text.toList v) :
    read text = .ok v := by
  obtain ⟨before, cs, after, htext, hbefore, hafter, hspells⟩ := h
  have hmark : text.toList.head? ≠ some '\uFEFF' := by
    obtain ⟨c, tail, rfl, -, -, -, hmark⟩ := hspells.opens
    rw [htext]
    cases before with
    | nil => simpa using hmark
    | cons b before =>
      rintro heq
      obtain rfl : b = '\uFEFF' := by simpa using heq
      have hspace := hbefore '\uFEFF' (by simp)
      exact absurd hspace (by decide)
  have hskip : skipSpace text.toList = cs ++ after := by
    rw [htext, List.append_assoc]
    exact skipSpace_append hbefore (hspells.opens.not_isSpace _)
  have hstops : Stops after := by
    simpa using stops_append hafter stops_nil
  have hlength : cs.length ≤ fuelFor text.toList := by
    rw [htext, fuelFor]
    simp
    omega
  have hread := readValue_of_spells hspells _ after hlength hstops
  have hdocument : readDocument text.toList = .ok v := by
    unfold readDocument
    rw [if_neg hmark, hskip]
    simp [bind, Except.bind, hread, skipSpace_blank hafter]
  rw [read, hdocument]
  rfl

end FunctionMetrics.Json
