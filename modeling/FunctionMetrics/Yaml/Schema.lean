import FunctionMetrics.Number.Typed
import FunctionMetrics.Text.Blank
import FunctionMetrics.Text.Case
import FunctionMetrics.Yaml.Fault
import FunctionMetrics.Yaml.Tag

/-! # Kinds and values of scalars

What a plain scalar without a tag is: its text alone decides, and a line break at its end does not matter. Truth values
have many spellings; whole numbers have bases 2, 8, 10 and 16 and base 60 with colons; underscores between digits mean
nothing. -/

namespace FunctionMetrics.Yaml.Schema

/-! ## Kinds -/

def nullWords : List String := ["", "~", "null", "Null", "NULL"]

def trueWords : List String := ["yes", "Yes", "YES", "true", "True", "TRUE", "on", "On", "ON"]

def falseWords : List String := ["no", "No", "NO", "false", "False", "FALSE", "off", "Off", "OFF"]

def dropSign : List Char → List Char
  | '+' :: rest | '-' :: rest => rest
  | rest => rest

def isDigit (c : Char) : Bool := '0' ≤ c ∧ c ≤ '9'
def isSpacedDigit (c : Char) : Bool := isDigit c ∨ c = '_'

/-- A digit, then digits and underscores. -/
def isDigitRun (cs : List Char) : Bool := cs.head?.any isDigit && cs.all isSpacedDigit

/-- A part behind a colon of a number in base 60: below 60, with one or two digits. -/
def isSixtieth : List Char → Bool
  | [d] => isDigit d
  | [t, d] => '0' ≤ t && t ≤ '5' && isDigit d
  | _ => false

def splitColons (cs : List Char) : List (List Char) :=
  cs.foldr (fun c parts =>
    if c = ':' then [] :: parts
    else match parts with
      | p :: rest => (c :: p) :: rest
      | [] => [[c]]) [[]]

def isInt (cs : List Char) : Bool :=
  match dropSign cs with
  | '0' :: 'b' :: ds => ds ≠ [] && ds.all fun c => c = '0' || c = '1' || c = '_'
  | '0' :: 'x' :: ds => ds ≠ [] && ds.all fun c => (Text.hexValue? c).isSome || c = '_'
  | '0' :: ds => ds.all fun c => ('0' ≤ c && c ≤ '7') || c = '_'
  | ds =>
    match splitColons ds with
    | whole :: parts => isDigitRun whole && parts.all isSixtieth
    | [] => false

/-- The power of ten of a decimal: none, or a signed number behind an `e`. -/
def isExponent : List Char → Bool
  | [] => true
  | e :: s :: ds => (e = 'e' || e = 'E') && (s = '+' || s = '-') && ds ≠ [] && ds.all isDigit
  | _ => false

/-- What stands behind the point of a decimal. -/
def isFraction (cs : List Char) : Bool := isExponent (cs.dropWhile isSpacedDigit)

def isFloat (cs : List Char) : Bool :=
  let body := dropSign cs
  if [".inf", ".Inf", ".INF"].contains (String.ofList body) then true
  else if [".nan", ".NaN", ".NAN"].contains (String.ofList cs) then true
  else match body.span (· ≠ '.') with
    | (_, []) => false
    | ([], _ :: fraction) => cs.head? = some '.' && fraction.head?.any isDigit && isFraction fraction
    | (whole, _ :: fraction) =>
      match splitColons whole with
      | [run] => isDigitRun run && isFraction fraction
      | run :: parts => isDigitRun run && parts.all isSixtieth && fraction.all isSpacedDigit
      | [] => false

structure Stamp where
  year : List Char
  month : List Char
  day : List Char
  time : Option (List Char × List Char × List Char × List Char)
  /-- The offset: none, universal time, or a sign with hours and minutes. -/
  zone : Option (Option (Bool × List Char × List Char))

/-- Between `least` and `most` digits, as many as there are. -/
def digitRun? (least most : Nat) (cs : List Char) : Option (List Char × List Char) :=
  let ds := (cs.take most).takeWhile isDigit
  if ds.length < least then none else some (ds, cs.drop ds.length)

def sign? (x : Char) : List Char → Option (List Char)
  | c :: rest => if c = x then some rest else none
  | [] => none

def zone? (cs : List Char) : Option (Option (Option (Bool × List Char × List Char))) :=
  match cs.dropWhile fun c => c = ' ' ∨ c = '\t' with
  | [] => if cs = [] then some none else none
  | ['Z'] => some (some none)
  | s :: rest =>
    if s = '+' ∨ s = '-' then do
      let (hours, rest) ← digitRun? 1 2 rest
      let (minutes, rest) ← match rest with
        | ':' :: rest => digitRun? 2 2 rest
        | rest => some ([], rest)
      if rest = [] then some (some (some (s = '-', hours, minutes))) else none
    else none

/-- A date, alone or with a time and an offset. -/
def stamp? (cs : List Char) : Option Stamp := do
  let (year, rest) ← digitRun? 4 4 cs
  let (month, rest) ← digitRun? 1 2 (← sign? '-' rest)
  let (day, rest) ← digitRun? 1 2 (← sign? '-' rest)
  if rest = [] then return ⟨year, month, day, none, none⟩
  let rest ← match rest with
    | 'T' :: r | 't' :: r => some r
    | r =>
      let after := r.dropWhile fun c => c = ' ' ∨ c = '\t'
      if after.length = r.length then none else some after
  let (hour, rest) ← digitRun? 1 2 rest
  let (minute, rest) ← digitRun? 2 2 (← sign? ':' rest)
  let (second, rest) ← digitRun? 2 2 (← sign? ':' rest)
  let (fraction, rest) := match rest with
    | '.' :: r => r.span isDigit
    | r => ([], r)
  return ⟨year, month, day, some (hour, minute, second, fraction), ← zone? rest⟩

/-- A date alone is a moment only with two digits for month and day. -/
def isMoment (cs : List Char) : Bool :=
  match stamp? cs with
  | some s => s.time.isSome || (s.month.length = 2 && s.day.length = 2)
  | none => false

/-- Signs of the document's own structure; one that stands alone as a scalar has no value. -/
def markWords : List String := ["!", "&", "*"]

def tagOfChars (cs : List Char) : Tag :=
  let text := String.ofList cs
  if nullWords.contains text then .null
  else if trueWords.contains text ∨ falseWords.contains text then .bool
  else if isFloat cs then .float
  else if isInt cs then .int
  else if text = "<<" then .merge
  else if isMoment cs then .timestamp
  else if text = "=" then .value
  else if markWords.contains text then .other
  else .str

def tagOf (text : Text.Codes) : Tag :=
  if text = ['\n'.toNat] then .str else tagOfChars (Text.dropFinalBreak text.chars)

/-! ## Values -/

def natOf (ds : List Char) : Nat := Text.ofDigits 10 (ds.map fun c => c.toNat - '0'.toNat)

def wordTruth? (text : Text.Codes) : Option Bool :=
  let word := text.shown
  if trueWords.contains word then some true else if falseWords.contains word then some false else none

def truth (text : Text.Codes) : Except ScalarFault Bool :=
  let word := Text.lower text
  match wordTruth? word with
  | some b => .ok b
  | none => .error (.notTruth word)

def withoutUnderscores (text : Text.Codes) : Text.Codes := text.filter (· ≠ '_'.toNat)

def signed (text : Text.Codes) : Except ScalarFault (Bool × Text.Codes) :=
  match text.chars with
  | [] => .error .empty
  | '-' :: _ => .ok (true, text.drop 1)
  | '+' :: _ => .ok (false, text.drop 1)
  | _ => .ok (false, text)

def colonParts (text : Text.Codes) : List Text.Codes :=
  text.foldr (fun n parts =>
    if n = ':'.toNat then [] :: parts
    else match parts with
      | p :: rest => (n :: p) :: rest
      | [] => [[n]]) [[]]

def whole (text : Text.Codes) : Except ScalarFault Int :=
  match Typed.whole text.shown with
  | .ok n => .ok n
  | .error .malformed => .error (.notWhole 10 text)
  | .error (.tooLong n) => .error (.longInteger n)

/-- The letter that may stand behind a zero in front of a number in a base. -/
def baseLetter (base : Nat) (c : Char) : Bool :=
  (base = 2 && (c = 'b' || c = 'B')) || (base = 8 && (c = 'o' || c = 'O')) || (base = 16 && (c = 'x' || c = 'X'))

/-- A whole number in base 2, 8 or 16, with blanks and a sign around it as in base ten. -/
def wholeIn (base : Nat) (text : Text.Codes) : Except ScalarFault Int :=
  let (negative, body) := Typed.splitSign (Typed.trim (text.chars.map Typed.plainDigit))
  let ds := match body with
    | '0' :: x :: rest => if baseLetter base x then rest else body
    | _ => body
  match ds.mapM fun c => (Text.hexValue? c).filter (· < base) with
  | some (d :: more) =>
    let n := Text.ofDigits base (d :: more)
    .ok (if negative then -(n : Int) else n)
  | _ => .error (.notWhole base text)

/-- The parts of a number in base 60, from the last to the first, summed up. -/
def sumSixtieths (parts : List Int) : Int := parts.foldr (fun d rest => d + 60 * rest) 0

def int (text : Text.Codes) : Except ScalarFault Int := do
  let (negative, body) ← signed (withoutUnderscores text)
  let n : Int ←
    match body.chars with
    | ['0'] => pure 0
    | '0' :: 'b' :: _ => wholeIn 2 (body.drop 2)
    | '0' :: 'x' :: _ => wholeIn 16 (body.drop 2)
    | [] => .error .empty
    | '0' :: _ => wholeIn 8 body
    | cs => if cs.contains ':' then ((colonParts body).mapM whole).map (sumSixtieths ·.reverse) else whole body
  return if negative then -n else n

def decimal (text : Text.Codes) : Except ScalarFault Binary64 :=
  match Typed.float? text.shown with
  | some x => .ok x
  | none => .error (.notDecimal text)

/-- Adds up the parts of a number in base 60 from the last to the first, each with its weight. -/
def addSixtieths (sum : Binary64) (weight : Nat) : List Binary64 → Except ScalarFault Binary64
  | [] => .ok sum
  | d :: rest =>
    match Binary64.ofInt? weight with
    | none => .error .tooLarge
    | some w => addSixtieths (sum + d * w) (weight * 60) rest

def nanWord : String := ".nan"

/-- Whether a text is the NaN that starts with a point; it may have a sign, which means nothing. -/
def isNan (text : Text.Codes) : Bool :=
  match signed (Text.lower (withoutUnderscores text)) with
  | .ok (_, body) => body.shown = nanWord
  | .error _ => false

def float (text : Text.Codes) : Except ScalarFault Binary64 := do
  let (negative, body) ← signed (Text.lower (withoutUnderscores text))
  let word := body.shown
  if word = nanWord then return .nan
  let x : Binary64 ←
    if word = ".inf" then pure (.infinity false)
    else if word.contains ':' then do addSixtieths .zero 1 (← (colonParts body).mapM decimal).reverse
    else decimal body
  return if negative then -x else x

/-- The first six digits behind the point of a second. -/
def microseconds (ds : List Char) : Nat :=
  let six := ds.take 6
  natOf six * Nat.pow 10 (6 - six.length)

/-- The offset in minutes; universal time has none of them. -/
def offset (zone : Option (Option (Bool × List Char × List Char))) : Except Moment.Problem (Option Int) :=
  match zone with
  | none => .ok none
  | some none => .ok (some 0)
  | some (some (negative, hours, minutes)) =>
    let size : Int := natOf hours * 60 + natOf minutes
    (Moment.checkOffset (if negative then -size else size)).map some

/-- A moment from its parts; the offset is looked at first. -/
def momentOf (s : Stamp) (hour minute second fraction : List Char) : Except Moment.Problem Moment := do
  let minutes ← offset s.zone
  Moment.of (natOf s.year) (natOf s.month) (natOf s.day) (natOf hour) (natOf minute) (natOf second)
    (microseconds fraction) minutes

/-- A date or a moment; a line break may end its text. -/
def moment (text : Text.Codes) : Except ScalarFault Value :=
  match stamp? (Text.dropFinalBreak text.chars) with
  | none => .error .notMoment
  | some s =>
    match s.time with
    | none =>
      ((Date.of (natOf s.year) (natOf s.month) (natOf s.day)).map Value.date).mapError fun p => .moment (.date p)
    | some (hour, minute, second, fraction) =>
      ((momentOf s hour minute second fraction).map Value.moment).mapError .moment

/-! ## Bytes -/

/-- The six bits that a letter of a binary scalar stands for. -/
def sixBits? (c : Char) : Option Nat :=
  if 'A' ≤ c ∧ c ≤ 'Z' then some (c.toNat - 'A'.toNat)
  else if 'a' ≤ c ∧ c ≤ 'z' then some (c.toNat - 'a'.toNat + 26)
  else if isDigit c then some (c.toNat - '0'.toNat + 52)
  else if c = '+' then some 62
  else if c = '/' then some 63
  else none

/-- The bytes that four letters each stand for three of; `place` letters of a group are read, of which `left` is
still to be used, and `pads` signs that fill up the group. Other characters mean nothing. -/
def bytesFrom? (place left pads : Nat) : List Char → Option (List UInt8)
  | [] => if place = 0 then some [] else none
  | c :: rest =>
    if c = '=' then
      if 2 ≤ place then
        if 4 ≤ place + pads + 1 then some [] else bytesFrom? place left (pads + 1) rest
      else bytesFrom? place left pads rest
    else match sixBits? c with
      | none => bytesFrom? place left pads rest
      | some v =>
        if place = 0 then bytesFrom? 1 v 0 rest
        else if place = 1 then (bytesFrom? 2 (v % 16) 0 rest).map ((left * 4 + v / 16).toUInt8 :: ·)
        else if place = 2 then (bytesFrom? 3 (v % 4) 0 rest).map ((left * 16 + v / 4).toUInt8 :: ·)
        else (bytesFrom? 0 0 0 rest).map ((left * 64 + v).toUInt8 :: ·)

def bytes? (text : Text.Codes) : Option (List UInt8) :=
  if text.all (· < 0x80) then bytesFrom? 0 0 0 text.chars else none

end FunctionMetrics.Yaml.Schema
