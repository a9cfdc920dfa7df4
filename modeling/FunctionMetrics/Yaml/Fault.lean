import FunctionMetrics.Failure

/-! # Faults of scalars -/

namespace FunctionMetrics

/-- Why the text of a scalar does not have the form that its tag asks for. -/
inductive ScalarFault
  | notWhole (base : Nat) (text : Text.Codes)
  | notDecimal (text : Text.Codes)
  | notTruth (text : Text.Codes)
  | notMoment
  | momentOfMapping
  | empty
  | moment (problem : Moment.Problem)
  | longInteger (digits : Nat)
  | tooLarge
  /-- A number that no character has. -/
  | codePoint
  /-- A number that is too large to be looked up among the characters. -/
  | hugeCodePoint
  /-- A mapping whose own value leads back to it. -/
  | endless
deriving DecidableEq, Repr

namespace ScalarFault

/-- The most characters of a quoted text that are shown where a whole number is expected. -/
def shownLength : Nat := 200

def message : ScalarFault → String
  | .notWhole base text =>
    "invalid literal for int() with base " ++ toString base ++ ": " ++
      String.ofList ((Text.quoteCodes text).toList.take shownLength)
  | .notDecimal text => "could not convert string to float: " ++ Text.quoteCodes text
  | .notTruth text => Text.quoteCodes text
  | .notMoment => "'NoneType' object has no attribute 'groupdict'"
  | .momentOfMapping => "expected string or bytes-like object, got 'list'"
  | .empty => "string index out of range"
  | .moment p => p.message
  | .longInteger n => longIntegerMessage n
  | .tooLarge => "int too large to convert to float"
  | .codePoint => "chr() arg not in range(0x110000)"
  | .hugeCodePoint => "Python int too large to convert to C int"
  | .endless => "maximum recursion depth exceeded"

def kind : ScalarFault → LibraryError.Kind
  | .notTruth _ => .key
  | .notMoment => .attribute
  | .empty => .index
  | .tooLarge | .hugeCodePoint => .overflow
  | .endless => .recursion
  | .momentOfMapping => .type
  | _ => .value

def error (f : ScalarFault) : LibraryError := ⟨f.kind, f.message⟩

end ScalarFault

end FunctionMetrics
