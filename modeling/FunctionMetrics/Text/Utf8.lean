/-! # UTF-8

A character is written with one to four bytes, each in one way only. Reading goes by the longest good start
of a character: what stops it is one fault, and reading that forgives puts one mark in its place. -/

namespace FunctionMetrics.Utf8

def encodeChar (c : Char) : List UInt8 :=
  let n := c.toNat
  let tail (shift : Nat) : UInt8 := (0x80 + (n >>> shift) % 64).toUInt8
  if n < 0x80 then [n.toUInt8]
  else if n < 0x800 then [(0xC0 + n >>> 6).toUInt8, tail 0]
  else if n < 0x10000 then [(0xE0 + n >>> 12).toUInt8, tail 6, tail 0]
  else [(0xF0 + n >>> 18).toUInt8, tail 12, tail 6, tail 0]

def encode (s : String) : List UInt8 := s.toList.flatMap encodeChar

/-- The bytes that may follow `lead` at once, and how many bytes follow it in all. -/
def follow? (lead : UInt8) : Option (UInt8 × UInt8 × Nat) :=
  if lead < 0xC2 then none
  else if lead < 0xE0 then some (0x80, 0xBF, 1)
  else if lead = 0xE0 then some (0xA0, 0xBF, 2)
  else if lead = 0xED then some (0x80, 0x9F, 2)
  else if lead < 0xF0 then some (0x80, 0xBF, 2)
  else if lead = 0xF0 then some (0x90, 0xBF, 3)
  else if lead < 0xF4 then some (0x80, 0xBF, 3)
  else if lead = 0xF4 then some (0x80, 0x8F, 3)
  else none

inductive Problem
  | invalidStart
  | invalidContinuation
  | unexpectedEnd
deriving DecidableEq, Repr

inductive Step
  | char (c : Char) (size : Nat)
  /-- No character: the first `size` bytes begin none. -/
  | bad (problem : Problem) (size : Nat)
deriving Repr

/-- Takes `more` further bytes of a character, the next one between `low` and `high`, after `size` bytes. -/
def continueChar (value size : Nat) (low high : UInt8) : Nat → List UInt8 → Step
  | 0, _ => .char (Char.ofNat value) size
  | _ + 1, [] => .bad .unexpectedEnd size
  | more + 1, b :: rest =>
    if low ≤ b ∧ b ≤ high then
      continueChar (value * 64 + (b.toNat - 0x80)) (size + 1) 0x80 0xBF more rest
    else .bad .invalidContinuation size

/-- The first character of a text that starts with the byte `lead`. -/
def step (lead : UInt8) (rest : List UInt8) : Step :=
  if lead < 0x80 then .char (Char.ofNat lead.toNat) 1
  else match follow? lead with
    | none => .bad .invalidStart 1
    | some (low, high, more) =>
      let head := if more = 1 then lead.toNat - 0xC0 else if more = 2 then lead.toNat - 0xE0 else lead.toNat - 0xF0
      continueChar head 1 low high more rest

/-- Drops the bytes of the step just taken from what follows its first byte. -/
def Step.after (s : Step) (rest : List UInt8) : List UInt8 :=
  match s with
  | .char _ size | .bad _ size => rest.drop (size - 1)

theorem Step.length_after (s : Step) (rest : List UInt8) : (s.after rest).length ≤ rest.length := by
  cases s <;> simp [Step.after]

structure Error where
  problem : Problem
  /-- The place of the first byte at fault. -/
  place : Nat
  /-- How many bytes are at fault. -/
  size : Nat
  lead : UInt8
deriving DecidableEq, Repr

/-- The characters that the bytes spell, `place` bytes into a text. -/
def decodeFrom (place : Nat) : List UInt8 → Except Error (List Char)
  | [] => .ok []
  | b :: rest =>
    match step b rest with
    | .bad problem size => .error ⟨problem, place, size, b⟩
    | .char c size => (decodeFrom (place + size) ((step b rest).after rest)).map (c :: ·)
termination_by bytes => bytes.length
decreasing_by exact Nat.lt_succ_of_le (Step.length_after _ _)

/-- The text that the bytes spell, or the first fault. -/
def decode (bytes : List UInt8) : Except Error String := (decodeFrom 0 bytes).map String.ofList

/-- The characters that the bytes spell, each fault replaced by U+FFFD. -/
def decodeLossyChars : List UInt8 → List Char
  | [] => []
  | b :: rest =>
    (match step b rest with
      | .char c _ => c
      | .bad .. => '\uFFFD') :: decodeLossyChars ((step b rest).after rest)
termination_by bytes => bytes.length
decreasing_by exact Nat.lt_succ_of_le (Step.length_after _ _)

/-- The text that the bytes spell, each fault replaced by U+FFFD. -/
def decodeLossy (bytes : List UInt8) : String := String.ofList (decodeLossyChars bytes)

def hexByte (b : UInt8) : String :=
  String.ofList [Nat.digitChar (b.toNat / 16), Nat.digitChar (b.toNat % 16)]

def Problem.text : Problem → String
  | .invalidStart => "invalid start byte"
  | .invalidContinuation => "invalid continuation byte"
  | .unexpectedEnd => "unexpected end of data"

def Error.message (e : Error) : String :=
  let what := if e.size = 1 then "byte 0x" ++ hexByte e.lead ++ " in position " ++ toString e.place
    else "bytes in position " ++ toString e.place ++ "-" ++ toString (e.place + e.size - 1)
  "'utf-8' codec can't decode " ++ what ++ ": " ++ e.problem.text

end FunctionMetrics.Utf8
