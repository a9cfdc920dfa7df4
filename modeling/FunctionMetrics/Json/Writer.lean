import FunctionMetrics.Value.Literal

/-! # Writing JSON

One item or entry in each line, two blanks further in for each level; only ASCII is written. -/

namespace FunctionMetrics.Json

def unitText (n : Nat) : List Char := "\\u".toList ++ (Text.hex 4 n).toList

/-- A code point inside quotes; one beyond the first 65536 is written as a pair. -/
def writeCode (n : Nat) : List Char :=
  let c := Text.charOf n
  if c = '\"' then ['\\', '\"']
  else if c = '\\' then ['\\', '\\']
  else if c = '\n' then ['\\', 'n']
  else if c = '\r' then ['\\', 'r']
  else if c = '\t' then ['\\', 't']
  else if c = '\x0c' then ['\\', 'f']
  else if c = '\x08' then ['\\', 'b']
  else if ' ' ≤ c ∧ c ≤ '~' then [c]
  else if n < 0x10000 then unitText n
  else unitText (0xD800 + (n - 0x10000) / 0x400) ++ unitText (0xDC00 + (n - 0x10000) % 0x400)

def writeCodes (cs : Text.Codes) : String := "\"" ++ String.ofList (cs.flatMap writeCode) ++ "\""

def writeString (s : String) : String := writeCodes (Text.Codes.ofString s)

def writeNumber : Number → String
  | .float .nan => "NaN"
  | .float (.infinity negative) => if negative then "-Infinity" else "Infinity"
  | n => n.text

def newLine (level : Nat) : String := "\n" ++ String.ofList (List.replicate (2 * level) ' ')

mutual

/-- A value on a level; what has no form in JSON is written as its text. -/
def writeAt (level : Nat) : Value → String
  | .null => "null"
  | .bool b => if b then "true" else "false"
  | .number n => writeNumber n
  | .text s => writeString s
  | .broken cs => writeCodes cs
  | .list [] => "[]"
  | .list (x :: xs) => "[" ++ writeItems (level + 1) (x :: xs) ++ newLine level ++ "]"
  | .map [] => "\x7b\x7d"
  | .map (e :: es) => "\x7b" ++ writeEntries (level + 1) (e :: es) ++ newLine level ++ "\x7d"
  | v => writeString v.plain

def writeItems (level : Nat) : List Value → String
  | [] => ""
  | [x] => newLine level ++ writeAt level x
  | x :: y :: rest => newLine level ++ writeAt level x ++ "," ++ writeItems level (y :: rest)

def writeEntries (level : Nat) : List (Value × Value) → String
  | [] => ""
  | [(k, v)] => newLine level ++ writeString k.plain ++ ": " ++ writeAt level v
  | (k, v) :: e :: rest =>
    newLine level ++ writeString k.plain ++ ": " ++ writeAt level v ++ "," ++ writeEntries level (e :: rest)

end

def write (v : Value) : String := writeAt 0 v

/-! ## Digits -/

mutual

/-- Whether no whole number in a value has too many digits. -/
def isWritable : Value → Bool
  | .number (.int n) => (Number.digits? n).isSome
  | .list xs => areWritable xs
  | .map es => entriesWritable es
  | _ => true

def areWritable : List Value → Bool
  | [] => true
  | x :: rest => isWritable x && areWritable rest

def entriesWritable : List (Value × Value) → Bool
  | [] => true
  | (k, v) :: rest => isWritable k && isWritable v && entriesWritable rest

end

def write? (v : Value) : Option String := if isWritable v then some (write v) else none

end FunctionMetrics.Json
