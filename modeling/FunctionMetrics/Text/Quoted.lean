import FunctionMetrics.Text.Printable

/-! # Quoted text

A text in a message stands in single quotes, or in double ones if that spares an escape. -/

namespace FunctionMetrics.Text

/-- `n` in base 16 with at least `width` digits. -/
def hex (width n : Nat) : String :=
  let ds := Nat.toDigits 16 n
  String.ofList (List.replicate (width - ds.length) '0' ++ ds)

/-- A character by its number, with as few digits as its form has room for. -/
def escapeNumber (n : Nat) : String :=
  if n ≤ 0xFF then "\\x" ++ hex 2 n
  else if n ≤ 0xFFFF then "\\u" ++ hex 4 n
  else "\\U" ++ hex 8 n

/-- A code point inside the quotes `q`. -/
def quoteCode (q : Char) (n : Nat) : String :=
  let c := charOf n
  if c = q ∨ c = '\\' then String.ofList ['\\', c]
  else if c = '\n' then "\\n"
  else if c = '\r' then "\\r"
  else if c = '\t' then "\\t"
  else if isPrintable n then c.toString
  else escapeNumber n

def quoteWith (q : Char) (cs : Codes) : String := q.toString ++ String.join (cs.map (quoteCode q)) ++ q.toString

/-- The quotes that spare an escape, or else single ones. -/
def quotesFor (cs : Codes) : Char := if cs.contains '\''.toNat ∧ ¬ cs.contains '\"'.toNat then '\"' else '\''

/-- A text in quotes; half of a pair is written by its number. -/
def quoteCodes (cs : Codes) : String := quoteWith (quotesFor cs) cs

def quote (s : String) : String := quoteCodes (Codes.ofString s)

/-- Bytes in quotes: what is not printable ASCII is written by number. -/
def quoteBytes (bytes : List UInt8) : String :=
  let q := quotesFor (bytes.map UInt8.toNat)
  let one (b : UInt8) : String := if b < 0x80 then quoteCode q b.toNat else escapeNumber b.toNat
  "b" ++ q.toString ++ String.join (bytes.map one) ++ q.toString

end FunctionMetrics.Text
