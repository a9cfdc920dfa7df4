import FunctionMetrics.Json.Reader

/-!
# Documents and what they spell

The grammar of JSON as a relation between a text and a value, apart from any reader. Halves of a pair are taken only
together. Readers differ in how long a whole number may be, so the grammar leaves that open.
-/

namespace FunctionMetrics.Json

open Text

/-! ## Strings -/

inductive SpellsChars : List Char → List Char → Prop
  | nil : SpellsChars [] []
  | plain {c : Char} {cs out : List Char} (hc : ' ' ≤ c ∧ c ≠ '\"' ∧ c ≠ '\\') (h : SpellsChars cs out) :
      SpellsChars (c :: cs) (c :: out)
  | short {letter c : Char} {cs out : List Char} (hc : shortEscape? letter = some c) (h : SpellsChars cs out) :
      SpellsChars ('\\' :: letter :: cs) (c :: out)
  | unit {d₁ d₂ d₃ d₄ : Char} {n : Nat} {cs out : List Char} (hn : hexUnit? d₁ d₂ d₃ d₄ = some n)
      (hhalf : isHalf n = false) (h : SpellsChars cs out) :
      SpellsChars ('\\' :: 'u' :: d₁ :: d₂ :: d₃ :: d₄ :: cs) (Char.ofNat n :: out)
  | pair {d₁ d₂ d₃ d₄ e₁ e₂ e₃ e₄ : Char} {high low : Nat} {cs out : List Char}
      (hhigh : hexUnit? d₁ d₂ d₃ d₄ = some high) (hlow : hexUnit? e₁ e₂ e₃ e₄ = some low)
      (hpair : isHighHalf high = true ∧ isLowHalf low = true) (h : SpellsChars cs out) :
      SpellsChars ('\\' :: 'u' :: d₁ :: d₂ :: d₃ :: d₄ :: '\\' :: 'u' :: e₁ :: e₂ :: e₃ :: e₄ :: cs)
        (Char.ofNat (joinHalves high low) :: out)

/-! ## Numbers -/

def IsDigits (ds : List Char) : Prop := ds ≠ [] ∧ ∀ c ∈ ds, isAsciiDigit c = true

/-- Digits without a needless zero at their start. -/
def IsWhole (ds : List Char) : Prop := IsDigits ds ∧ (ds.head? = some '0' → ds = ['0'])

def signed (negative : Bool) (cs : List Char) : List Char := if negative then '-' :: cs else cs

inductive SpellsFraction : List Char → List Char → Prop
  | none : SpellsFraction [] []
  | some {ds : List Char} (h : IsDigits ds) : SpellsFraction ('.' :: ds) ds

inductive SpellsExponent : List Char → Option Int → Prop
  | none : SpellsExponent [] none
  | plain {e : Char} {ds : List Char} (he : e = 'e' ∨ e = 'E') (h : IsDigits ds) :
      SpellsExponent (e :: ds) (some (digitsOf ds))
  | plus {e : Char} {ds : List Char} (he : e = 'e' ∨ e = 'E') (h : IsDigits ds) :
      SpellsExponent (e :: '+' :: ds) (some (digitsOf ds))
  | minus {e : Char} {ds : List Char} (he : e = 'e' ∨ e = 'E') (h : IsDigits ds) :
      SpellsExponent (e :: '-' :: ds) (some (-(digitsOf ds : Int)))

/-- Whole numbers are exact; `fits` tells how many digits they may have. All others are rounded to the nearest one. -/
inductive SpellsNumber (fits : Nat → Prop) : List Char → Number → Prop
  | whole {negative : Bool} {ds : List Char} (h : IsWhole ds) (hfits : fits ds.length) :
      SpellsNumber fits (signed negative ds) (.int (if negative then -(digitsOf ds : Int) else digitsOf ds))
  | decimal {negative : Bool} {ds fs behind es : List Char} {e : Option Int} (h : IsWhole ds)
      (hfraction : SpellsFraction behind fs) (hexponent : SpellsExponent es e) (hsome : fs ≠ [] ∨ e ≠ none) :
      SpellsNumber fits (signed negative (ds ++ behind ++ es))
        (.float (.ofDecimal negative (digitsOf (ds ++ fs)) (e.getD 0 - fs.length)))

/-! ## Values -/

def IsBlank (cs : List Char) : Prop := ∀ c ∈ cs, isSpace c = true

structure Item where
  before : List Char
  text : List Char
  after : List Char
  value : Value

def Item.chars (x : Item) : List Char := x.before ++ x.text ++ x.after

/-- A value in a map under its name; `key` is the text between the quotes. -/
structure Field where
  before : List Char
  key : List Char
  name : List Char
  between : List Char
  item : Item

def Field.chars (x : Field) : List Char := x.before ++ '\"' :: x.key ++ '\"' :: x.between ++ ':' :: x.item.chars

def Field.entry (x : Field) : Value × Value := (.text (String.ofList x.name), x.item.value)

def commas : List (List Char) → List Char
  | [] => []
  | [p] => p
  | p :: q :: rest => p ++ ',' :: commas (q :: rest)

/-- A text without blanks at its ends, and the value that it spells. Of a name that is given twice the last value
counts, in the place of the first one. -/
inductive Spells (fits : Nat → Prop) : List Char → Value → Prop
  | null : Spells fits "null".toList .null
  | bool (b : Bool) : Spells fits (if b then "true" else "false").toList (.bool b)
  | number {cs : List Char} {n : Number} (h : SpellsNumber fits cs n) : Spells fits cs (.number n)
  | text {cs out : List Char} (h : SpellsChars cs out) :
      Spells fits ('\"' :: cs ++ ['\"']) (.text (String.ofList out))
  | noItems {ws : List Char} (hws : IsBlank ws) : Spells fits ('[' :: ws ++ [']']) (.list [])
  | list {x : Item} {xs : List Item} (hblank : ∀ y ∈ x :: xs, IsBlank y.before ∧ IsBlank y.after)
      (h : ∀ y ∈ x :: xs, Spells fits y.text y.value) :
      Spells fits ('[' :: commas ((x :: xs).map Item.chars) ++ [']']) (.list ((x :: xs).map Item.value))
  | noFields {ws : List Char} (hws : IsBlank ws) : Spells fits ('\x7b' :: ws ++ ['\x7d']) (.map [])
  | map {x : Field} {xs : List Field}
      (hblank : ∀ y ∈ x :: xs, IsBlank y.before ∧ IsBlank y.between ∧ IsBlank y.item.before ∧ IsBlank y.item.after)
      (hkey : ∀ y ∈ x :: xs, SpellsChars y.key y.name) (h : ∀ y ∈ x :: xs, Spells fits y.item.text y.item.value) :
      Spells fits ('\x7b' :: commas ((x :: xs).map Field.chars) ++ ['\x7d'])
        (.map (Entries.ofList ((x :: xs).map Field.entry)))

def IsDocument (fits : Nat → Prop) (cs : List Char) (v : Value) : Prop :=
  ∃ before text after, cs = before ++ text ++ after ∧ IsBlank before ∧ IsBlank after ∧ Spells fits text v

end FunctionMetrics.Json
