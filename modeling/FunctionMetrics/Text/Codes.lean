/-! # Code points

A text as the numbers of its characters. Halves of pairs may stand alone here, which no string can hold; where a
string is asked for, U+FFFD is shown in their place. -/

namespace FunctionMetrics.Text

abbrev Codes := List Nat

def isHalf (n : Nat) : Bool := 0xD800 ≤ n ∧ n ≤ 0xDFFF

def isHighHalf (n : Nat) : Bool := 0xD800 ≤ n ∧ n ≤ 0xDBFF
def isLowHalf (n : Nat) : Bool := 0xDC00 ≤ n ∧ n ≤ 0xDFFF

def joinHalves (high low : Nat) : Nat := 0x10000 + (high - 0xD800) * 0x400 + (low - 0xDC00)

def charOf (n : Nat) : Char := if isHalf n then '\uFFFD' else Char.ofNat n

namespace Codes

def ofChars (cs : List Char) : Codes := cs.map Char.toNat

def ofString (s : String) : Codes := ofChars s.toList

def chars (cs : Codes) : List Char := cs.map charOf

def shown (cs : Codes) : String := String.ofList cs.chars

def isBroken (cs : Codes) : Bool := cs.any isHalf

end Codes

def inRanges (ranges : List (Nat × Nat)) (n : Nat) : Bool := ranges.any fun (low, high) => low ≤ n && n ≤ high

end FunctionMetrics.Text
