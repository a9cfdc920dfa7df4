import FunctionMetrics.Text.Codes

/-! # Tokens of YAML

What a document is made of before its structure is known. A block collection has no signs of its own; its start
and end follow from indentation and stand among the tokens all the same. -/

namespace FunctionMetrics.Yaml

inductive Directive
  | version (major minor : Nat)
  | tag (handle tagStart : String)
  | other
deriving DecidableEq, Repr

inductive Token
  | directive (d : Directive)
  | documentStart
  | documentEnd
  | streamEnd
  | blockSequenceStart
  | blockMappingStart
  | blockEnd
  | flowSequenceStart
  | flowSequenceEnd
  | flowMappingStart
  | flowMappingEnd
  | blockEntry
  | flowEntry
  | key
  | value
  | alias (name : String)
  | anchor (name : String)
  /-- A tag with the handle that stands for its start, if it has one. -/
  | tag (handle : Option String) (suffix : String)
  | scalar (text : Text.Codes) (plain : Bool)
deriving DecidableEq, Repr

/-! ## Classes of characters

The end of the text counts as a break: it is given as `none`. Line breaks are single characters here. -/

def isBreak (c : Char) : Bool := c = '\n' ∨ c = '\x85' ∨ c = '\u2028' ∨ c = '\u2029'

def isBreakOrEnd (c : Option Char) : Bool := c.all isBreak

def isSpaceOrEnd (c : Option Char) : Bool := c.all fun c => c = ' ' ∨ isBreak c

def isBlankOrEnd (c : Option Char) : Bool := c.all fun c => c = ' ' ∨ c = '\t' ∨ isBreak c

/-- A character of an anchor, a tag handle or a directive's name. -/
def isWordChar (c : Char) : Bool :=
  ('0' ≤ c ∧ c ≤ '9') ∨ ('A' ≤ c ∧ c ≤ 'Z') ∨ ('a' ≤ c ∧ c ≤ 'z') ∨ c = '-' ∨ c = '_'

def isTagChar (c : Char) : Bool := isWordChar c ∨ ";/?:@&=+$,.!~*'()[]%".contains c

def isFlowSign (c : Char) : Bool := c = ',' ∨ c = '[' ∨ c = ']' ∨ c = '\x7b' ∨ c = '\x7d'

/-- A sign that no plain scalar starts with. -/
def isIndicator (c : Char) : Bool := isFlowSign c ∨ "-?:#&*!|>'\"%@\x60".contains c

def isAllowed (c : Char) : Bool :=
  c = '\t' ∨ c = '\n' ∨ c = '\r' ∨ (' ' ≤ c ∧ c ≤ '~') ∨ c = '\x85' ∨
    ('\u00A0' ≤ c ∧ c ≤ '\uFFFD') ∨ '\uFFFD'.toNat + 2 < c.toNat

end FunctionMetrics.Yaml
