import FunctionMetrics.Text.CaseTable
import FunctionMetrics.Text.Codes

/-! # Small letters

Every letter has one small form, with two exceptions: the dotted capital I keeps its dot as a mark of its own, and a
sigma at the end of a word has a form for that place. No half of a pair is a letter. -/

namespace FunctionMetrics.Text

def capitalSigma : Nat := 0x3A3
def smallSigma : Nat := 0x3C3
def finalSigma : Nat := 0x3C2
def dottedCapitalI : Nat := 0x130

/-- The letter that comes first if marks and signs are passed over. -/
def meetsLetter (codes : Codes) : Bool :=
  (codes.dropWhile (inRanges transparentRanges)).head?.any (inRanges casedRanges)

/-- The small form of a code point in most places. -/
def lowerCode (n : Nat) : Nat :=
  match lowerings.find? fun r => r.first ≤ n ∧ n ≤ r.last ∧ (n - r.first) % r.step = 0 with
  | some r => r.small + (n - r.first)
  | none => n

/-- The small form of a code point; `before` is the text in front of it, from its end. -/
def lowerAt (before : Codes) (n : Nat) (behind : Codes) : Codes :=
  if n = capitalSigma then [if meetsLetter before ∧ ¬ meetsLetter behind then finalSigma else smallSigma]
  else if n = dottedCapitalI then [0x69, 0x307]
  else [lowerCode n]

def lowerAfter (before : Codes) : Codes → Codes
  | [] => []
  | n :: rest => lowerAt before n rest ++ lowerAfter (n :: before) rest

def lower (codes : Codes) : Codes := lowerAfter [] codes

def lowerText (s : String) : String := (lower (Codes.ofString s)).shown

end FunctionMetrics.Text
