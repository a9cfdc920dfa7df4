import FunctionMetrics.Json.Writer
import FunctionMetrics.Proofs.Json.Numbers
import FunctionMetrics.Proofs.Json.Reading
import FunctionMetrics.Proofs.Options.Entries
import FunctionMetrics.Proofs.Text.Ascii

/-!
# Values as they are written

What is written is a document in ASCII that spells the value, and so it is read as this value. A few values are not
written as they are: those that JSON has no form for, and a map with a name that stands twice.
-/

namespace FunctionMetrics.Json

open Text

/-! ## Numbers of characters -/

theorem toDigits_sixteen {n : Nat} (h : ¬ n < 16) :
    Nat.toDigits 16 n = Nat.toDigits 16 (n / 16) ++ [(n % 16).digitChar] :=
  Nat.toDigits_of_base_le (by decide) (by omega)

theorem hexValue?_digitChar : ∀ n < 16, hexValue? n.digitChar = some n := by decide

theorem isSome_hexValue?_toDigits {n : Nat} : ∀ c ∈ Nat.toDigits 16 n, (hexValue? c).isSome = true := by
  induction n using Nat.strong_induction_on with
  | _ n ih =>
    intro c hc
    by_cases hsmall : n < 16
    · rw [Nat.toDigits_of_lt_base hsmall, List.mem_singleton] at hc
      rw [hc, hexValue?_digitChar n hsmall]
      rfl
    · rw [toDigits_sixteen hsmall, List.mem_append, List.mem_singleton] at hc
      rcases hc with hc | rfl
      · exact ih (n / 16) (by omega) c hc
      · rw [hexValue?_digitChar _ (Nat.mod_lt n (by decide))]
        rfl

theorem mapM_hexValue?_toDigits (n : Nat) :
    ∃ vs, (Nat.toDigits 16 n).mapM hexValue? = some vs ∧ ofDigits 16 vs = n := by
  induction n using Nat.strong_induction_on with
  | _ n ih =>
    by_cases hsmall : n < 16
    · rw [Nat.toDigits_of_lt_base hsmall]
      refine ⟨[n], ?_, by simp [ofDigits]⟩
      simp [hexValue?_digitChar n hsmall]
    · obtain ⟨vs, hvs, hvalue⟩ := ih (n / 16) (by omega)
      refine ⟨vs ++ [n % 16], ?_, ?_⟩
      · rw [toDigits_sixteen hsmall, List.mapM_append, hvs]
        simp [hexValue?_digitChar _ (Nat.mod_lt n (by decide))]
      · rw [ofDigits, List.foldl_append, ← ofDigits, hvalue, List.foldl_cons, List.foldl_nil]
        omega

theorem mapM_hexValue?_zeros {ds : List Char} {vs : List Nat} (h : ds.mapM hexValue? = some vs) (k : Nat) :
    ∃ vs', (List.replicate k '0' ++ ds).mapM hexValue? = some vs' ∧ ofDigits 16 vs' = ofDigits 16 vs := by
  induction k with
  | zero => exact ⟨vs, h, rfl⟩
  | succ k ih =>
    obtain ⟨vs', hvs, hvalue⟩ := ih
    have hzero : hexValue? '0' = some 0 := by decide
    refine ⟨0 :: vs', ?_, ?_⟩
    · rw [List.replicate_succ, List.cons_append, List.mapM_cons, hzero, hvs]
      rfl
    · rw [← hvalue]
      rfl

theorem exists_hexUnit {n : Nat} (h : n < 0x10000) :
    ∃ a b c d, unitText n = ['\\', 'u', a, b, c, d] ∧ hexUnit? a b c d = some n := by
  obtain ⟨vs, hvs, hvalue⟩ := mapM_hexValue?_toDigits n
  have hlength : (Nat.toDigits 16 n).length ≤ 4 := (Nat.length_toDigits_le_iff (by decide) (by decide)).mpr (by omega)
  obtain ⟨vs', hvs', hvalue'⟩ := mapM_hexValue?_zeros hvs (4 - (Nat.toDigits 16 n).length)
  have hfour : (List.replicate (4 - (Nat.toDigits 16 n).length) '0' ++ Nat.toDigits 16 n).length = 4 := by
    rw [List.length_append, List.length_replicate]
    omega
  obtain ⟨a, b, c, d, hchars⟩ := List.length_eq_four.mp hfour
  refine ⟨a, b, c, d, ?_, ?_⟩
  · simp [unitText, hex, hchars]
  · rw [hexUnit?, ← hchars, hvs']
    exact congrArg some (hvalue'.trans hvalue)

/-! ## Strings -/

theorem toNat_lt (c : Char) : c.toNat < 0x110000 := by
  rcases c.valid with hc | hc
  · exact Nat.lt_trans hc (by decide)
  · exact hc.2

theorem spellsChars_halves {c : Char} (hlarge : ¬ c.toNat < 0x10000) {cs out : List Char} (h : SpellsChars cs out) :
    SpellsChars
      (unitText (0xD800 + (c.toNat - 0x10000) / 0x400) ++ unitText (0xDC00 + (c.toNat - 0x10000) % 0x400) ++ cs)
      (c :: out) := by
  have hlast := toNat_lt c
  have hhigh : 0xD800 + (c.toNat - 0x10000) / 0x400 ≤ 0xDBFF := by omega
  have hlow : 0xDC00 + (c.toNat - 0x10000) % 0x400 ≤ 0xDFFF := by omega
  have hjoin : joinHalves (0xD800 + (c.toNat - 0x10000) / 0x400) (0xDC00 + (c.toNat - 0x10000) % 0x400) = c.toNat := by
    unfold joinHalves
    omega
  obtain ⟨d₁, d₂, d₃, d₄, htext, hn⟩ := exists_hexUnit (Nat.lt_of_le_of_lt hhigh (by decide))
  obtain ⟨e₁, e₂, e₃, e₄, htext', hn'⟩ := exists_hexUnit (Nat.lt_of_le_of_lt hlow (by decide))
  have hspells := SpellsChars.pair hn hn' (by simp [isHighHalf, isLowHalf, hhigh, hlow]) h
  rw [hjoin, Char.ofNat_toNat] at hspells
  rw [htext, htext']
  exact hspells

theorem writeCode_cases {motive : List Char → Prop} (n : Nat)
    (short : ∀ letter, shortEscape? letter = some (charOf n) → letter.toNat < 128 → motive ['\\', letter])
    (plain : ' ' ≤ charOf n ∧ charOf n ≠ '\"' ∧ charOf n ≠ '\\' → charOf n ≤ '~' → motive [charOf n])
    (unit : n < 0x10000 → motive (unitText n))
    (halves : ¬ n < 0x10000 →
      motive (unitText (0xD800 + (n - 0x10000) / 0x400) ++ unitText (0xDC00 + (n - 0x10000) % 0x400))) :
    motive (writeCode n) := by
  unfold writeCode
  dsimp only
  refine iteInduction (fun hc => short '\"' (by rw [hc]; rfl) (by decide)) fun hquote => ?_
  refine iteInduction (fun hc => short '\\' (by rw [hc]; rfl) (by decide)) fun hslash => ?_
  refine iteInduction (fun hc => short 'n' (by rw [hc]; rfl) (by decide)) fun _ => ?_
  refine iteInduction (fun hc => short 'r' (by rw [hc]; rfl) (by decide)) fun _ => ?_
  refine iteInduction (fun hc => short 't' (by rw [hc]; rfl) (by decide)) fun _ => ?_
  refine iteInduction (fun hc => short 'f' (by rw [hc]; rfl) (by decide)) fun _ => ?_
  refine iteInduction (fun hc => short 'b' (by rw [hc]; rfl) (by decide)) fun _ => ?_
  refine iteInduction (fun hc => plain ⟨hc.1, hquote, hslash⟩ hc.2) fun _ => ?_
  exact iteInduction unit halves

theorem spellsChars_writeCode (c : Char) {cs out : List Char} (h : SpellsChars cs out) :
    SpellsChars (writeCode c.toNat ++ cs) (c :: out) := by
  apply writeCode_cases (motive := fun text => SpellsChars (text ++ cs) (c :: out)) c.toNat
  case short =>
    intro letter hletter _
    rw [charOf_toNat] at hletter
    exact .short hletter h
  case plain =>
    intro hplain _
    rw [charOf_toNat] at hplain ⊢
    exact .plain hplain h
  case unit =>
    intro hsmall
    obtain ⟨a, b, d, e, htext, hn⟩ := exists_hexUnit hsmall
    have hspells := SpellsChars.unit hn (isHalf_toNat c) h
    rw [Char.ofNat_toNat] at hspells
    rw [htext]
    exact hspells
  case halves => exact fun hlarge => spellsChars_halves hlarge h

theorem spellsChars_write (cs : List Char) : SpellsChars ((Codes.ofChars cs).flatMap writeCode) cs := by
  induction cs with
  | nil => exact .nil
  | cons c cs ih => exact spellsChars_writeCode c ih

theorem toList_writeString (s : String) :
    (writeString s).toList = '\"' :: (Codes.ofString s).flatMap writeCode ++ ['\"'] := by
  simp [writeString, writeCodes]

theorem spells_writeString {fits : Nat → Prop} (s : String) : Spells fits (writeString s).toList (.text s) := by
  have hspells : Spells fits _ (.text (String.ofList s.toList)) := .text (spellsChars_write s.toList)
  rw [String.ofList_toList] at hspells
  rw [toList_writeString]
  exact hspells

example : writeString "\"é\n😀" = "\"\\\"\\u00e9\\n\\ud83d\\ude00\"" := by decide +kernel

/-! ## Lines -/

theorem isBlank_nil : IsBlank [] := by
  intro c hc
  cases hc

theorem isBlank_newLine (level : Nat) : IsBlank (newLine level).toList := by
  have hchars : (newLine level).toList = '\n' :: List.replicate (2 * level) ' ' := by simp [newLine]
  intro c hc
  rw [hchars, List.mem_cons] at hc
  rcases hc with rfl | hc
  · rfl
  · rw [List.eq_of_mem_replicate hc]
    rfl

def Item.line (level : Nat) (after : List Char) (v : Value) : Item :=
  ⟨(newLine level).toList, (writeAt level v).toList, after, v⟩

def Field.line (level : Nat) (after : List Char) (name : String) (v : Value) : Field :=
  ⟨(newLine level).toList, (Codes.ofString name).flatMap writeCode, name.toList, [],
    [' '], (writeAt level v).toList, after, v⟩

structure Item.IsWritten (level : Nat) (x : Item) : Prop where
  before : IsBlank x.before
  after : IsBlank x.after
  text : x.text = (writeAt level x.value).toList

structure Field.IsWritten (level : Nat) (x : Field) : Prop where
  before : IsBlank x.before
  key : SpellsChars x.key x.name
  between : IsBlank x.between
  item : x.item.IsWritten level

section

variable (level : Nat) {after : List Char}

theorem Item.chars_line (v : Value) :
    (Item.line level after v).chars = (newLine level ++ writeAt level v).toList ++ after := by
  simp only [Item.line, Item.chars, String.toList_append]

theorem Field.chars_line (name : String) (v : Value) :
    (Field.line level after name v).chars =
      (newLine level ++ writeString name ++ ": " ++ writeAt level v).toList ++ after := by
  have hcolon : ": ".toList = [':', ' '] := rfl
  simp only [Field.line, Field.chars, Item.chars, String.toList_append, toList_writeString, hcolon, List.append_assoc,
    List.cons_append, List.nil_append]

theorem Field.entry_line (name : String) (v : Value) : (Field.line level after name v).entry = (.text name, v) := by
  rw [Field.entry, Field.line, String.ofList_toList]

variable (hafter : IsBlank after)

include hafter

theorem Item.isWritten_line (v : Value) : (Item.line level after v).IsWritten level :=
  ⟨isBlank_newLine level, hafter, rfl⟩

theorem Field.isWritten_line (name : String) (v : Value) : (Field.line level after name v).IsWritten level := by
  have hspace : IsBlank [' '] := by
    intro c hc
    rw [List.mem_singleton.mp hc]
    rfl
  exact ⟨isBlank_newLine level, spellsChars_write name.toList, isBlank_nil, hspace, hafter, rfl⟩

/-- A list is written as its lines, with what stands before the bracket behind the last one. -/
theorem exists_lines (x : Value) (xs : List Value) :
    ∃ y ys, (writeItems level (x :: xs)).toList ++ after = commas ((y :: ys).map Item.chars) ∧
      (y :: ys).map Item.value = x :: xs ∧ ∀ z ∈ y :: ys, z.IsWritten level := by
  induction xs generalizing x with
  | nil =>
    refine ⟨.line level after x, [], ?_, rfl, ?_⟩
    · exact (Item.chars_line level x).symm
    · intro z hz
      rw [List.mem_singleton.mp hz]
      exact Item.isWritten_line level hafter x
  | cons x' xs ih =>
    obtain ⟨y, ys, htext, hvalues, hwritten⟩ := ih x'
    refine ⟨.line level [] x, y :: ys, ?_, ?_, ?_⟩
    · rw [List.map_cons, List.map_cons, commas, ← List.map_cons, ← htext, Item.chars_line, writeItems]
      simp
    · rw [List.map_cons, hvalues]
      rfl
    · intro z hz
      rcases List.mem_cons.mp hz with rfl | hz
      · exact Item.isWritten_line level isBlank_nil x
      · exact hwritten z hz

theorem exists_fields (e : Value × Value) (es : List (Value × Value)) (hname : ∀ f ∈ e :: es, ∃ s, f.1 = .text s) :
    ∃ y ys, (writeEntries level (e :: es)).toList ++ after = commas ((y :: ys).map Field.chars) ∧
      (y :: ys).map Field.entry = e :: es ∧ ∀ z ∈ y :: ys, z.IsWritten level := by
  induction es generalizing e with
  | nil =>
    obtain ⟨k, v⟩ := e
    obtain ⟨name, rfl⟩ : ∃ s, k = .text s := hname (k, v) (by simp)
    refine ⟨.line level after name v, [], ?_, ?_, ?_⟩
    · exact (Field.chars_line level name v).symm
    · rw [List.map_cons, Field.entry_line]
      rfl
    · intro z hz
      rw [List.mem_singleton.mp hz]
      exact Field.isWritten_line level hafter name v
  | cons e' es ih =>
    obtain ⟨y, ys, htext, hvalues, hwritten⟩ := ih e' fun f hf => hname f (List.mem_cons_of_mem _ hf)
    obtain ⟨k, v⟩ := e
    obtain ⟨name, rfl⟩ : ∃ s, k = .text s := hname (k, v) (by simp)
    have hplain : Value.plain (.text name) = name := rfl
    refine ⟨.line level [] name v, y :: ys, ?_, ?_, ?_⟩
    · rw [List.map_cons, List.map_cons, commas, ← List.map_cons, ← htext, Field.chars_line, writeEntries, hplain]
      simp
    · rw [List.map_cons, hvalues, Field.entry_line]
    · intro z hz
      rcases List.mem_cons.mp hz with rfl | hz
      · exact Field.isWritten_line level isBlank_nil name v
      · exact hwritten z hz

end

/-! ## Values with a form -/

/-- What is written as it is: numbers that JSON has, and maps of names of which none stands twice. -/
inductive Plain (fits : Nat → Prop) : Value → Prop
  | null : Plain fits .null
  | bool (b : Bool) : Plain fits (.bool b)
  | int {n : Int} (h : fits (Nat.toDigits 10 n.natAbs).length) : Plain fits (.int n)
  | float {x : Binary64} (h : x.isFinite = true) : Plain fits (.number (.float x))
  | text (s : String) : Plain fits (.text s)
  | list {xs : List Value} (h : ∀ x ∈ xs, Plain fits x) : Plain fits (.list xs)
  | map {es : Entries} (hdistinct : es.Distinct) (hname : ∀ e ∈ es, ∃ s, e.1 = .text s) (h : ∀ e ∈ es, Plain fits e.2) :
      Plain fits (.map es)

theorem spells_writeAt {fits : Nat → Prop} {v : Value} (h : Plain fits v) :
    ∀ level, Spells fits (writeAt level v).toList v := by
  induction h with
  | null => exact fun _ => .null
  | bool b => exact fun _ => .bool b
  | int h => exact fun _ => .number (spellsNumber_int h)
  | @float x h =>
    intro level
    have hspells : Spells fits x.text.toList (.number (.float x)) := .number (spellsNumber_text h)
    cases x with
    | nan | infinity => cases h
    | finite => exact hspells
  | text s => exact fun _ => spells_writeString s
  | @list xs h ih =>
    intro level
    cases xs with
    | nil =>
      have hspells : Spells fits ['[', ']'] (.list []) := .noItems isBlank_nil
      simpa [writeAt] using hspells
    | cons x xs =>
      obtain ⟨y, ys, htext, hvalues, hwritten⟩ := exists_lines (level + 1) (isBlank_newLine level) x xs
      have hwrite : (writeAt level (.list (x :: xs))).toList = '[' :: commas ((y :: ys).map Item.chars) ++ [']'] := by
        rw [← htext]
        simp [writeAt]
      rw [hwrite, ← hvalues]
      refine .list (fun z hz => ⟨(hwritten z hz).before, (hwritten z hz).after⟩) fun z hz => ?_
      rw [(hwritten z hz).text]
      exact ih z.value (hvalues ▸ List.mem_map_of_mem hz) (level + 1)
  | @map es hdistinct hname h ih =>
    intro level
    cases es with
    | nil =>
      have hspells : Spells fits ['\x7b', '\x7d'] (.map []) := .noFields isBlank_nil
      simpa [writeAt] using hspells
    | cons e es =>
      obtain ⟨y, ys, htext, hvalues, hwritten⟩ := exists_fields (level + 1) (isBlank_newLine level) e es hname
      have hwrite : (writeAt level (.map (e :: es))).toList =
          '\x7b' :: commas ((y :: ys).map Field.chars) ++ ['\x7d'] := by
        rw [← htext]
        simp [writeAt]
      rw [hwrite, ← Entries.ofList_eq hdistinct, ← hvalues]
      have hblank : ∀ z ∈ y :: ys, IsBlank z.before ∧ IsBlank z.between ∧ IsBlank z.item.before ∧ IsBlank z.item.after :=
        fun z hz => ⟨(hwritten z hz).before, (hwritten z hz).between, (hwritten z hz).item.before,
          (hwritten z hz).item.after⟩
      refine .map hblank (fun z hz => (hwritten z hz).key) fun z hz => ?_
      rw [(hwritten z hz).item.text]
      exact ih z.entry (hvalues ▸ List.mem_map_of_mem hz) (level + 1)

theorem isDocument_write {fits : Nat → Prop} {v : Value} (h : Plain fits v) : IsDocument fits (write v).toList v :=
  ⟨[], _, [], by simp [write], isBlank_nil, isBlank_nil, spells_writeAt h 0⟩

/-- **What is written is read back.** Of all values that have a form in JSON, those are read back as they are whose whole
numbers are short enough for the reader. -/
theorem read_write {v : Value} (h : Plain (· ≤ Number.maxDigits) v) : read (write v) = .ok v :=
  read_of_isDocument (isDocument_write h)

/-! ## ASCII -/

theorem toNat_lt_of_le {c d : Char} (h : c ≤ d) (hd : d.toNat < 128) : c.toNat < 128 :=
  Nat.lt_of_le_of_lt (UInt32.le_iff_toNat_le.mp h) hd

theorem toNat_lt_of_hexValue? {c : Char} (h : (hexValue? c).isSome = true) : c.toNat < 128 := by
  unfold hexValue? at h
  split_ifs at h with hdigit hsmall hlarge
  · exact toNat_lt_of_le hdigit.2 (by decide)
  · exact toNat_lt_of_le hsmall.2 (by decide)
  · exact toNat_lt_of_le hlarge.2 (by decide)
  · cases h

theorem isAscii_unitText (n : Nat) : ∀ c ∈ unitText n, c.toNat < 128 := by
  have hmark : IsAscii "\\u" := by decide
  intro c hc
  rw [unitText, hex, List.mem_append] at hc
  rcases hc with hc | hc
  · exact hmark c hc
  · rw [String.toList_ofList, List.mem_append] at hc
    rcases hc with hc | hc
    · rw [List.eq_of_mem_replicate hc]
      decide
    · exact toNat_lt_of_hexValue? (isSome_hexValue?_toDigits c hc)

theorem isAscii_writeCode (n : Nat) : ∀ c ∈ writeCode n, c.toNat < 128 := by
  apply writeCode_cases (motive := fun text => ∀ c ∈ text, c.toNat < 128) n
  case short =>
    intro letter _ hletter c hc
    rcases List.mem_pair.mp hc with rfl | rfl
    · decide
    · exact hletter
  case plain =>
    intro _ hlast c hc
    rw [List.mem_singleton.mp hc]
    exact toNat_lt_of_le hlast (by decide)
  case unit => exact fun _ => isAscii_unitText n
  case halves => exact fun _ c hc => (List.mem_append.mp hc).elim (isAscii_unitText _ c) (isAscii_unitText _ c)

theorem isAscii_writeCodes (cs : Codes) : IsAscii (writeCodes cs) := by
  have hquote : IsAscii "\"" := by decide
  have hcodes : IsAscii (String.ofList (cs.flatMap writeCode)) := by
    rw [isAscii_ofList]
    intro c hc
    obtain ⟨n, -, hn⟩ := List.mem_flatMap.mp hc
    exact isAscii_writeCode n c hn
  rw [writeCodes, isAscii_append, isAscii_append]
  exact ⟨⟨hquote, hcodes⟩, hquote⟩

theorem isAscii_writeString (s : String) : IsAscii (writeString s) := isAscii_writeCodes _

theorem isAscii_writeNumber (n : Number) : IsAscii (writeNumber n) := by
  cases n with
  | int n => exact isAscii_intText n
  | float x =>
    cases x with
    | nan => change IsAscii "NaN"; decide
    | infinity negative => cases negative <;> (simp only [writeNumber]; decide)
    | finite negative m => exact Binary64.isAscii_textWith _ _ (.finite negative m)

theorem isAscii_newLine (level : Nat) : IsAscii (newLine level) := by
  have hbreak : IsAscii "\n" := by decide
  refine isAscii_append.mpr ⟨hbreak, isAscii_ofList.mpr fun c hc => ?_⟩
  rw [List.eq_of_mem_replicate hc]
  decide

mutual

theorem isAscii_writeAt (level : Nat) : ∀ v : Value, IsAscii (writeAt level v)
  | .null => by rw [writeAt]; decide
  | .bool b => by cases b <;> (simp only [writeAt]; decide)
  | .number n => isAscii_writeNumber n
  | .text s => isAscii_writeString s
  | .broken cs => isAscii_writeCodes cs
  | .list [] => by rw [writeAt]; decide
  | .list (x :: xs) => by
    rw [writeAt]
    simp only [isAscii_append, isAscii_writeItems (level + 1) (x :: xs), isAscii_newLine, and_true]
    decide
  | .map [] => by rw [writeAt]; decide
  | .map (e :: es) => by
    rw [writeAt]
    simp only [isAscii_append, isAscii_writeEntries (level + 1) (e :: es), isAscii_newLine, and_true]
    decide
  | .bytes _ | .date _ | .moment _ | .pair .. | .set _ | .again _ | .knot .. => isAscii_writeString _

theorem isAscii_writeItems (level : Nat) : ∀ xs : List Value, IsAscii (writeItems level xs)
  | [] => by rw [writeItems]; decide
  | [x] => by
    rw [writeItems]
    exact isAscii_append.mpr ⟨isAscii_newLine level, isAscii_writeAt level x⟩
  | x :: y :: rest => by
    rw [writeItems]
    simp only [isAscii_append, isAscii_newLine, isAscii_writeAt level x, isAscii_writeItems level (y :: rest), true_and,
      and_true]
    decide

theorem isAscii_writeEntries (level : Nat) : ∀ es : List (Value × Value), IsAscii (writeEntries level es)
  | [] => by rw [writeEntries]; decide
  | [(k, v)] => by
    rw [writeEntries]
    simp only [isAscii_append, isAscii_newLine, isAscii_writeString, isAscii_writeAt level v, true_and, and_true]
    decide
  | (k, v) :: e :: rest => by
    rw [writeEntries]
    simp only [isAscii_append, isAscii_newLine, isAscii_writeString, isAscii_writeAt level v,
      isAscii_writeEntries level (e :: rest), true_and, and_true]
    decide

end

end FunctionMetrics.Json
