/-! # Blanks -/

namespace FunctionMetrics.Text

def wideBlanks : List Nat :=
  [0x85, 0xA0, 0x1680, 0x2000, 0x2001, 0x2002, 0x2003, 0x2004, 0x2005, 0x2006, 0x2007, 0x2008, 0x2009, 0x200A,
   0x2028, 0x2029, 0x202F, 0x205F, 0x3000]

/-- A blank that may stand around a number: a space, a tab, a line or page break, or a blank of any script. -/
def isPadding (c : Char) : Bool := c = ' ' ∨ (9 ≤ c.toNat ∧ c.toNat ≤ 13) ∨ wideBlanks.contains c.toNat

/-- A blank between words; the four separators of records count as well. -/
def isBlank (c : Char) : Bool := isPadding c ∨ (0x1C ≤ c.toNat ∧ c.toNat ≤ 0x1F)

/-- A text without the line break at its end, if there is one. -/
def dropFinalBreak (cs : List Char) : List Char := if cs.getLast? = some '\n' then cs.dropLast else cs

end FunctionMetrics.Text
