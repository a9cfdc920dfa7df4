import FunctionMetrics.Number.Basic
import FunctionMetrics.Text.Blank
import FunctionMetrics.Text.Digit

/-! # Numbers as they are typed

Blanks may stand around a number, its digits may be of any script, and one underscore may stand between two of
them. -/

namespace FunctionMetrics.Typed

/-- Digits of all scripts as those of ASCII. -/
def plainDigit (c : Char) : Char :=
  match Text.digitValue? c with
  | some d => Nat.digitChar d
  | none => c

def trim (cs : List Char) : List Char :=
  ((cs.dropWhile Text.isPadding).reverse.dropWhile Text.isPadding).reverse

/-- Takes out the underscores, each of which has to stand between two digits. -/
def joinDigits? (before : Option Char) : List Char → Option (List Char)
  | [] => some []
  | '_' :: c :: rest =>
    if before.any Text.isAsciiDigit ∧ Text.isAsciiDigit c then (joinDigits? (some c) rest).map (c :: ·)
    else none
  | ['_'] => none
  | c :: rest => (joinDigits? (some c) rest).map (c :: ·)

def splitSign : List Char → Bool × List Char
  | '-' :: rest => (true, rest)
  | '+' :: rest => (false, rest)
  | rest => (false, rest)

def valueOf (ds : List Char) : Nat := Text.ofDigits 10 (ds.map fun c => c.toNat - '0'.toNat)

def exponent? : List Char → Option Int
  | [] => some 0
  | e :: rest =>
    let (negative, ds) := splitSign rest
    if (e = 'e' ∨ e = 'E') ∧ ds ≠ [] ∧ ds.all Text.isAsciiDigit then
      some (if negative then -(valueOf ds : Int) else valueOf ds)
    else none

/-- A decimal without its sign: digits, a point, digits, an exponent; a digit is needed beside the point. -/
def decimal? (negative : Bool) (cs : List Char) : Option Binary64 :=
  let (whole, rest) := cs.span Text.isAsciiDigit
  let (fraction, rest) := match rest with
    | '.' :: r => r.span Text.isAsciiDigit
    | r => ([], r)
  if whole = [] ∧ fraction = [] then none
  else (exponent? rest).map fun e => .ofDecimal negative (valueOf (whole ++ fraction)) (e - fraction.length)

/-- A floating point number, infinity and NaN included. -/
def float? (text : String) : Option Binary64 := do
  let (negative, cs) := splitSign (← joinDigits? none (trim (text.toList.map plainDigit)))
  let word := String.ofList (cs.map Char.toLower)
  if word = "inf" ∨ word = "infinity" then some (.infinity negative)
  else if word = "nan" then some .nan
  else decimal? negative cs

inductive WholeFault
  | malformed
  | tooLong (digits : Nat)
deriving DecidableEq, Repr

/-- A whole number. Its digits are counted before what stands behind them is looked at, so too many of them are the
fault even where the text goes on with something else. -/
def whole (text : String) : Except WholeFault Int :=
  let (negative, body) := splitSign ((text.toList.map plainDigit).dropWhile Text.isPadding)
  let (run, rest) := body.span fun c => Text.isAsciiDigit c ∨ c = '_'
  match joinDigits? none run with
  | none => .error .malformed
  | some ds =>
    if Number.maxDigits < ds.length then .error (.tooLong ds.length)
    else if ds = [] ∨ ¬ rest.all Text.isPadding then .error .malformed
    else .ok (if negative then -(valueOf ds : Int) else valueOf ds)

end FunctionMetrics.Typed
