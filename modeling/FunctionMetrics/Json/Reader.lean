import FunctionMetrics.Value.Basic
import FunctionMetrics.Text.Digit

/-! # Reading JSON

A reader that also takes the words `NaN`, `Infinity` and `-Infinity`. It works on what remains of the text;
an error is reported at the place where a remainder starts. -/

namespace FunctionMetrics.Json

inductive Problem
  | byteOrderMark
  | value
  | name
  | colon
  | comma
  | extra
  | unterminated
  | control
  | escape
  | unicodeEscape
deriving DecidableEq, Repr

def Problem.text : Problem → String
  | .byteOrderMark => "Unexpected UTF-8 BOM (decode using utf-8-sig)"
  | .value => "Expecting value"
  | .name => "Expecting property name enclosed in double quotes"
  | .colon => "Expecting ':' delimiter"
  | .comma => "Expecting ',' delimiter"
  | .extra => "Extra data"
  | .unterminated => "Unterminated string starting at"
  | .control => "Invalid control character at"
  | .escape => "Invalid \\escape"
  | .unicodeEscape => "Invalid \\uXXXX escape"

/-- Why a text cannot be read, with what remains of it from the place at fault. -/
inductive Fault
  | malformed (problem : Problem) (rest : List Char)
  /-- A whole number with more digits than are read. -/
  | longInteger (digits : Nat)
deriving Repr

def isSpace (c : Char) : Bool := c = ' ' ∨ c = '\t' ∨ c = '\n' ∨ c = '\r'

def skipSpace (s : List Char) : List Char := s.dropWhile isSpace

/-! ## Strings -/

/-- A string's letter after a backslash, `u` apart. -/
def shortEscape? : Char → Option Char
  | '\"' => some '\"'
  | '\\' => some '\\'
  | '/' => some '/'
  | 'b' => some '\x08'
  | 'f' => some '\x0c'
  | 'n' => some '\n'
  | 'r' => some '\r'
  | 't' => some '\t'
  | _ => none

def hexUnit? (a b c d : Char) : Option Nat :=
  match [a, b, c, d].mapM Text.hexValue? with
  | some ds => some (Text.ofDigits 16 ds)
  | none => none

/-- The code points up to the closing quote of a string that opened at `start`, and what follows it. Two halves of a
pair are one character only if both are given by number, one right behind the other. -/
def readString (start : List Char) : List Char → Except Fault (Text.Codes × List Char)
  | [] => .error (.malformed .unterminated start)
  | '\"' :: rest => .ok ([], rest)
  | ['\\'] => .error (.malformed .unterminated start)
  | '\\' :: 'u' :: a :: b :: c :: d :: '\\' :: 'u' :: e :: f :: g :: h :: next :: rest =>
    match hexUnit? a b c d with
    | none =>
      .error (.malformed .unicodeEscape ('u' :: a :: b :: c :: d :: '\\' :: 'u' :: e :: f :: g :: h :: next :: rest))
    | some high =>
      if Text.isHighHalf high then
        match hexUnit? e f g h with
        | none => .error (.malformed .unicodeEscape ('u' :: e :: f :: g :: h :: next :: rest))
        | some low =>
          if Text.isLowHalf low then
            (readString start (next :: rest)).map fun (s, r) => (Text.joinHalves high low :: s, r)
          else
            (readString start ('\\' :: 'u' :: e :: f :: g :: h :: next :: rest)).map
              fun (s, r) => (high :: s, r)
      else
        (readString start ('\\' :: 'u' :: e :: f :: g :: h :: next :: rest)).map
          fun (s, r) => (high :: s, r)
  | '\\' :: 'u' :: a :: b :: c :: d :: next :: rest =>
    match hexUnit? a b c d with
    | none => .error (.malformed .unicodeEscape ('u' :: a :: b :: c :: d :: next :: rest))
    | some n => (readString start (next :: rest)).map fun (s, r) => (n :: s, r)
  | '\\' :: 'u' :: rest => .error (.malformed .unicodeEscape ('u' :: rest))
  | '\\' :: c :: rest =>
    match shortEscape? c with
    | none => .error (.malformed .escape ('\\' :: c :: rest))
    | some x => (readString start rest).map fun (s, r) => (x.toNat :: s, r)
  | c :: rest =>
    if c < ' ' then .error (.malformed .control (c :: rest))
    else (readString start rest).map fun (s, r) => (c.toNat :: s, r)

/-! ## Numbers -/

def digitsOf (cs : List Char) : Nat := Text.ofDigits 10 (cs.map fun c => c.toNat - '0'.toNat)

def spanDigits (s : List Char) : List Char × List Char := s.span Text.isAsciiDigit

/-- The digits behind a point, if a digit follows it. -/
def readFraction (s : List Char) : List Char × List Char :=
  match s with
  | '.' :: rest => if (spanDigits rest).1 = [] then ([], s) else spanDigits rest
  | _ => ([], s)

/-- The power of ten behind an `e`, if a digit follows. -/
def readExponent (s : List Char) : Option Int × List Char :=
  match s with
  | e :: rest =>
    if e = 'e' ∨ e = 'E' then
      let (negative, body) := match rest with
        | '-' :: r => (true, r)
        | '+' :: r => (false, r)
        | r => (false, r)
      let (ds, after) := spanDigits body
      if ds = [] then (none, s) else (some (if negative then -(digitsOf ds : Int) else digitsOf ds), after)
    else (none, s)
  | [] => (none, s)

/-- The number without its sign that a text starts with. -/
def readSize (negative : Bool) (start s : List Char) : Except Fault (Number × List Char) :=
  let whole := match s with
    | '0' :: rest => (['0'], rest)
    | _ => spanDigits s
  if whole.1 = [] then .error (.malformed .value start)
  else
    let fraction := readFraction whole.2
    let exponent := readExponent fraction.2
    if fraction.1 = [] ∧ exponent.1 = none then
      if Number.maxDigits < whole.1.length then .error (.longInteger whole.1.length)
      else .ok (.int (if negative then -(digitsOf whole.1 : Int) else digitsOf whole.1), whole.2)
    else
      .ok (.float (.ofDecimal negative (digitsOf (whole.1 ++ fraction.1))
        (exponent.1.getD 0 - fraction.1.length)), exponent.2)

def word? (word s : List Char) : Option (List Char) :=
  if word.isPrefixOf s then some (s.drop word.length) else none

def words : List (String × Value) :=
  [("null", .null), ("true", .bool true), ("false", .bool false), ("NaN", .number (.float .nan)),
   ("Infinity", .number (.float (.infinity false))), ("-Infinity", .number (.float (.infinity true)))]

def readScalar (s : List Char) : Except Fault (Value × List Char) :=
  match words.findSome? (fun (w, v) => (word? w.toList s).map (v, ·)) with
  | some found => .ok found
  | none =>
    (match s with
      | '-' :: rest => readSize true s rest
      | _ => readSize false s s).map fun (n, r) => (.number n, r)

/-! ## Values -/

mutual

/-- The value that a text starts with, and what follows it. -/
def readValue : Nat → List Char → Except Fault (Value × List Char)
  | 0, s => .error (.malformed .value s)
  | fuel + 1, s =>
    match s with
    | '\"' :: rest => (readString s rest).map fun (cs, r) => (.ofCodes cs, r)
    | '[' :: rest =>
      match skipSpace rest with
      | ']' :: after => .ok (.list [], after)
      | body => (readItems fuel body).map fun (xs, r) => (.list xs, r)
    | '\x7b' :: rest =>
      match skipSpace rest with
      | '\x7d' :: after => .ok (.map [], after)
      | body => (readEntries fuel body).map fun (es, r) => (.map (Entries.ofList es), r)
    | _ => readScalar s

def readItems : Nat → List Char → Except Fault (List Value × List Char)
  | 0, s => .error (.malformed .value s)
  | fuel + 1, s => do
    let (x, r) ← readValue fuel s
    match skipSpace r with
    | ']' :: after => .ok ([x], after)
    | ',' :: after =>
      let (xs, r) ← readItems fuel (skipSpace after)
      .ok (x :: xs, r)
    | r => .error (.malformed .comma r)

def readEntries : Nat → List Char → Except Fault (List (Value × Value) × List Char)
  | 0, s => .error (.malformed .name s)
  | fuel + 1, s =>
    match s with
    | '\"' :: body => do
      let (cs, r) ← readString s body
      match skipSpace r with
      | ':' :: r => do
        let (v, r) ← readValue fuel (skipSpace r)
        let entry := (Value.ofCodes cs, v)
        match skipSpace r with
        | '\x7d' :: after => .ok ([entry], after)
        | ',' :: after =>
          let (es, r) ← readEntries fuel (skipSpace after)
          .ok (entry :: es, r)
        | r => .error (.malformed .comma r)
      | r => .error (.malformed .colon r)
    | _ => .error (.malformed .name s)

end

inductive Error
  | malformed (problem : Problem) (line column place : Nat)
  | longInteger (digits : Nat)
deriving DecidableEq, Repr

/-- The fault of a text with its place: lines and columns count from one, characters from zero. -/
def Fault.locate (text : List Char) : Fault → Error
  | .longInteger n => .longInteger n
  | .malformed problem rest =>
    let before := text.take (text.length - rest.length)
    .malformed problem (before.count '\n' + 1) ((before.reverse.takeWhile (· ≠ '\n')).length + 1) before.length

def Error.message : Error → String
  | .malformed problem line column place =>
    problem.text ++ ": line " ++ toString line ++ " column " ++ toString column ++
      " (char " ++ toString place ++ ")"
  | .longInteger n =>
    "Exceeds the limit (4300 digits) for integer string conversion: value has " ++ toString n ++
      " digits; use sys.set_int_max_str_digits() to increase the limit"

/-- Fuel for any text of a length: a bracket takes two units, one for the value and one for the first of its items. -/
def fuelFor (s : List Char) : Nat := 2 * s.length + 1

def readDocument (s : List Char) : Except Fault Value := do
  if s.head? = some '\uFEFF' then .error (.malformed .byteOrderMark s)
  let (v, r) ← readValue (fuelFor s) (skipSpace s)
  match skipSpace r with
  | [] => .ok v
  | r => .error (.malformed .extra r)

def read (text : String) : Except Error Value := (readDocument text.toList).mapError (·.locate text.toList)

end FunctionMetrics.Json
