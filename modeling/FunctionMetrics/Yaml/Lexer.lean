import FunctionMetrics.Text.Utf8
import FunctionMetrics.Yaml.ScalarText

/-! # From characters to tokens

Indentation opens and closes block collections. A key without a sign of its own is known only at the colon behind
it, so each place where one may have started is remembered as a candidate, one for each level of flow
collections, and the sign is put in front of it then. -/

namespace FunctionMetrics.Yaml

structure Candidate where
  level : Nat
  /-- How many tokens stand before it. -/
  place : Nat
  /-- Nothing but a key may stand at this indentation. -/
  required : Bool
  index : Nat
  line : Nat
  column : Nat

structure Lexer where
  cursor : Cursor
  tokens : Array Token := #[]
  /-- How many flow collections are open. -/
  flow : Nat := 0
  indent : Int := -1
  outer : List Int := []
  keysAllowed : Bool := true
  candidates : List Candidate := []
  ended : Bool := false

/-- The tokens that can be had, and what is met where more of them are asked for. -/
structure Scan where
  tokens : List Token
  stop : Stop := .malformed

namespace Lexer

/-- The furthest that a colon may stand behind the start of its key. -/
def keyReach : Nat := 1024

def push (l : Lexer) (t : Token) : Lexer := { l with tokens := l.tokens.push t }

def take (l : Lexer) (t : Token) (n : Nat) : Lexer := { l.push t with cursor := l.cursor.skip n }

/-- Whether a blank, a break or the end follows the character here. -/
def beforeBlank (l : Lexer) : Bool := isBlankOrEnd (l.cursor.ahead? 1)

/-! ## Candidates -/

/-- Whether a candidate is so far behind that no key can start there. -/
def isStale (l : Lexer) (c : Candidate) : Bool := c.line ≠ l.cursor.line ∨ keyReach < l.cursor.index - c.index

/-- Forgets the candidates that are too far behind; a required one must not be. -/
def dropStale (l : Lexer) : Except Stop Lexer :=
  if l.candidates.any fun c => l.isStale c && c.required then .error .malformed
  else .ok { l with candidates := l.candidates.filter (! l.isStale ·) }

/-- Forgets the candidate of this level; a required one must not be forgotten. -/
def dropCandidate (l : Lexer) : Except Stop Lexer :=
  if l.candidates.any fun c => c.level = l.flow && c.required then .error .malformed
  else .ok { l with candidates := l.candidates.filter fun c => c.level ≠ l.flow }

def saveCandidate (l : Lexer) : Except Stop Lexer :=
  if ! l.keysAllowed then .ok l
  else do
    let required := l.flow = 0 ∧ l.indent = l.cursor.column
    let l ← l.dropCandidate
    let here : Candidate :=
      ⟨l.flow, l.tokens.size, required, l.cursor.index, l.cursor.line, l.cursor.column⟩
    .ok { l with candidates := here :: l.candidates }

/-! ## Indentation -/

def unwindTo (column : Int) (indent : Int) (tokens : Array Token) : List Int → Int × List Int × Array Token
  | [] => (indent, [], tokens)
  | o :: outer =>
    if column < indent then unwindTo column o (tokens.push .blockEnd) outer else (indent, o :: outer, tokens)

/-- Closes the block collections that are indented by more than `column`. -/
def unwind (l : Lexer) (column : Int) : Lexer :=
  if 0 < l.flow then l
  else
    let (indent, outer, tokens) := unwindTo column l.indent l.tokens l.outer
    { l with indent, outer, tokens }

/-- Opens a block collection at `column` in front of the token number `place`, unless one is open there. -/
def openBlock (l : Lexer) (t : Token) (column place : Nat) : Lexer :=
  if l.indent < column then
    { l with outer := l.indent :: l.outer, indent := column, tokens := l.tokens.insertIdxIfInBounds place t }
  else l

/-! ## Kinds of tokens -/

/-- Ends all blocks; what follows starts a line of its own. -/
def endBlocks (l : Lexer) : Except Stop Lexer := do
  let l ← (l.unwind (-1)).dropCandidate
  .ok { l with keysAllowed := false }

def openFlow (l : Lexer) (t : Token) : Except Stop Lexer := do
  let l ← l.saveCandidate
  .ok { l.take t 1 with flow := l.flow + 1, keysAllowed := true }

def closeFlow (l : Lexer) (t : Token) : Except Stop Lexer := do
  let l ← l.dropCandidate
  if l.flow = 0 then .error .malformed
  else .ok { l.take t 1 with flow := l.flow - 1, keysAllowed := false }

def flowEntry (l : Lexer) : Except Stop Lexer := do
  let l ← l.dropCandidate
  .ok { l.take .flowEntry 1 with keysAllowed := true }

/-- Opens a block collection at this place if the context is that of blocks; it must be allowed there. -/
def openHere (l : Lexer) (t : Token) : Except Stop Lexer :=
  if 0 < l.flow then .ok l
  else if ! l.keysAllowed then .error .malformed
  else .ok (l.openBlock t l.cursor.column l.tokens.size)

def blockEntry (l : Lexer) : Except Stop Lexer := do
  let l ← l.openHere .blockSequenceStart
  let l ← l.dropCandidate
  .ok { l.take .blockEntry 1 with keysAllowed := true }

def explicitKey (l : Lexer) : Except Stop Lexer := do
  let l ← l.openHere .blockMappingStart
  let l ← l.dropCandidate
  .ok { l.take .key 1 with keysAllowed := l.flow = 0 }

def value (l : Lexer) : Except Stop Lexer :=
  match l.candidates.find? fun c => c.level = l.flow with
  | some c =>
    let l := { l with
      candidates := l.candidates.filter fun c => c.level ≠ l.flow
      tokens := l.tokens.insertIdxIfInBounds c.place .key }
    let l := if l.flow = 0 then l.openBlock .blockMappingStart c.column c.place else l
    .ok { l.take .value 1 with keysAllowed := false }
  | none => do
    let l ← l.openHere .blockMappingStart
    let l ← l.dropCandidate
    .ok { l.take .value 1 with keysAllowed := l.flow = 0 }

/-- Takes a token that may be a key or stand in front of one. -/
def takeInline (l : Lexer) (scan : Cursor → Except Stop (Token × Cursor)) : Except Stop Lexer := do
  let l ← l.saveCandidate
  let (t, c) ← scan l.cursor
  .ok { l.push t with cursor := c, keysAllowed := false }

def scanName (make : String → Token) (c : Cursor) : Except Stop (Token × Cursor) :=
  let (name, c) := c.next.takeWhile isWordChar
  if name = [] ∨ ¬ (isBlankOrEnd c.peek? ∨ c.peek?.any ("?:,]\x7d%@\x60".contains ·)) then .error .malformed
  else .ok (make (String.ofList name), c)

/-! ## Tags -/

/-- A run of bytes given by two digits each; together they spell characters. -/
def percentBytes (fuel : Nat) (c : Cursor) : Except Stop (List UInt8 × Cursor) :=
  match fuel, c.rest with
  | fuel + 1, '%' :: a :: b :: _ =>
    match Text.hexValue? a, Text.hexValue? b with
    | some h, some l => do
      let (more, c) ← percentBytes fuel (c.skip 3)
      .ok ((h * 16 + l).toUInt8 :: more, c)
    | _, _ => .error .malformed
  | _, '%' :: _ => .error .malformed
  | _, _ => .ok ([], c)

def tagChars (fuel : Nat) (c : Cursor) : Except Stop (List Char × Cursor) :=
  match fuel with
  | 0 => .ok ([], c)
  | fuel + 1 =>
    match c.peek? with
    | some '%' => do
      let (bytes, c) ← percentBytes c.rest.length c
      match Utf8.decode bytes with
      | .error _ => .error .malformed
      | .ok s =>
        let (more, c) ← tagChars fuel c
        .ok (s.toList ++ more, c)
    | some x =>
      if isTagChar x then do
        let (more, c) ← tagChars fuel c.next
        .ok (x :: more, c)
      else .ok ([], c)
    | none => .ok ([], c)

def scanTagText (c : Cursor) : Except Stop (String × Cursor) := do
  let (text, after) ← tagChars (c.rest.length + 1) c
  if after.index = c.index then .error .malformed else .ok (String.ofList text, after)

/-- A handle: one exclamation mark, or two with letters between them. -/
def scanHandle (c : Cursor) : Except Stop (String × Cursor) :=
  if c.peek? ≠ some '!' then .error .malformed
  else if c.ahead? 1 = some ' ' then .ok ("!", c.next)
  else
    let (name, after) := c.next.takeWhile isWordChar
    if after.peek? = some '!' then .ok ("!" ++ String.ofList name ++ "!", after.next) else .error .malformed

def scanTag (c : Cursor) : Except Stop (Token × Cursor) := do
  let (t, c) ← match c.ahead? 1 with
    | some '<' => do
      let (text, c) ← scanTagText (c.skip 2)
      if c.peek? = some '>' then .ok (Token.tag none text, c.next) else .error .malformed
    | x =>
      if isBlankOrEnd x then .ok (Token.tag none "!", c.next)
      else do
        let word := c.next.rest.takeWhile fun x => ! isSpaceOrEnd (some x)
        let (handle, c) ← if word.contains '!' then scanHandle c else .ok ("!", c.next)
        let (text, c) ← scanTagText c
        .ok (Token.tag (some handle) text, c)
  if isSpaceOrEnd c.peek? then .ok (t, c) else .error .malformed

/-! ## Directives -/

def scanNumber (c : Cursor) : Except Stop (Nat × Cursor) :=
  let (ds, c) := c.takeWhile Text.isAsciiDigit
  if ds = [] then .error .malformed
  else if Number.maxDigits < ds.length then .error (.fault (.longInteger ds.length))
  else .ok (Text.ofDigits 10 (ds.map fun d => d.toNat - '0'.toNat), c)

def scanVersion (c : Cursor) : Except Stop (Directive × Cursor) := do
  let (major, c) ← scanNumber c.skipSpaces
  if c.peek? ≠ some '.' then .error .malformed
  let (minor, c) ← scanNumber c.next
  if isSpaceOrEnd c.peek? then .ok (.version major minor, c) else .error .malformed

def scanTagDirective (c : Cursor) : Except Stop (Directive × Cursor) := do
  let (handle, c) ← scanHandle c.skipSpaces
  if c.peek? ≠ some ' ' then .error .malformed
  let (start, c) ← scanTagText c.skipSpaces
  if isSpaceOrEnd c.peek? then .ok (.tag handle start, c) else .error .malformed

def scanDirective (c : Cursor) : Except Stop (Token × Cursor) := do
  let (name, c) := c.next.takeWhile isWordChar
  if name = [] ∨ ¬ isSpaceOrEnd c.peek? then .error .malformed
  let (d, c) ←
    if name = "YAML".toList then scanVersion c
    else if name = "TAG".toList then scanTagDirective c
    else .ok (.other, c.skipWhile (! isBreak ·))
  .ok (.directive d, ← c.endLine)

/-! ## The next token -/

/-- Skips blanks, comments and line breaks; in the context of blocks a key may start on a new line. -/
def skipGap (block : Bool) (allowed comment : Bool) (c : Cursor) : List Char → Bool × Cursor
  | [] => (allowed, c)
  | x :: rest =>
    if isBreak x then skipGap block (allowed || block) false c.next rest
    else if comment || x = ' ' then skipGap block allowed comment c.next rest
    else if x = '#' then skipGap block allowed true c.next rest
    else (allowed, c)

def toNextToken (l : Lexer) : Lexer :=
  let c := if l.cursor.index = 0 ∧ l.cursor.peek? = some '\uFEFF' then l.cursor.next else l.cursor
  let (allowed, c) := skipGap (l.flow = 0) l.keysAllowed false c c.rest
  { l with cursor := c, keysAllowed := allowed }

def takePlain (l : Lexer) : Except Stop Lexer := do
  let l ← l.saveCandidate
  let p := plain (0 < l.flow) (l.indent + 1) (l.cursor.rest.length + 1) ⟨[], false, l.cursor⟩
  .ok { l.push (.scalar (Text.Codes.ofChars p.text) true) with cursor := p.cursor, keysAllowed := p.crossedLine }

def takeQuoted (l : Lexer) (double : Bool) : Except Stop Lexer :=
  l.takeInline fun c => do
    let (text, c) ← quoted double (c.rest.length + 1) c.next
    .ok (.scalar text false, c)

def takeBlock (l : Lexer) (folded : Bool) : Except Stop Lexer := do
  let l ← l.dropCandidate
  let (text, c) ← block folded l.indent l.cursor.next
  .ok { l.push (.scalar (Text.Codes.ofChars text) false) with cursor := c, keysAllowed := true }

def startsPlain (l : Lexer) (x : Char) : Bool :=
  ! (x = '\t' ∨ isIndicator x) ||
    (! l.beforeBlank && (x = '-' || (l.flow = 0 && (x = '?' || x = ':'))))

def step (l : Lexer) (x : Char) : Except Stop Lexer :=
  let c := l.cursor
  let inFlow : Bool := 0 < l.flow
  if x = '%' ∧ c.column = 0 then do
    let l ← l.endBlocks
    let (t, c) ← scanDirective l.cursor
    .ok { l.push t with cursor := c }
  else if c.column = 0 ∧ c.isMarker '-' then l.endBlocks.map (·.take .documentStart 3)
  else if c.column = 0 ∧ c.isMarker '.' then l.endBlocks.map (·.take .documentEnd 3)
  else if x = '[' then l.openFlow .flowSequenceStart
  else if x = '\x7b' then l.openFlow .flowMappingStart
  else if x = ']' then l.closeFlow .flowSequenceEnd
  else if x = '\x7d' then l.closeFlow .flowMappingEnd
  else if x = ',' then l.flowEntry
  else if x = '-' ∧ l.beforeBlank then l.blockEntry
  else if x = '?' ∧ (inFlow ∨ l.beforeBlank) then l.explicitKey
  else if x = ':' ∧ (inFlow ∨ l.beforeBlank) then l.value
  else if x = '*' then l.takeInline (scanName .alias)
  else if x = '&' then l.takeInline (scanName .anchor)
  else if x = '!' then l.takeInline scanTag
  else if x = '|' ∧ ¬ inFlow then l.takeBlock false
  else if x = '>' ∧ ¬ inFlow then l.takeBlock true
  else if x = '\'' then l.takeQuoted false
  else if x = '\"' then l.takeQuoted true
  else if l.startsPlain x then l.takePlain
  else .error .malformed

/-- Takes what comes next; the end of the text is a token too. -/
def advance (l : Lexer) : Except Stop Lexer := do
  let l ← l.toNextToken.dropStale
  let l := l.unwind l.cursor.column
  match l.cursor.peek? with
  | none =>
    let l ← l.endBlocks
    .ok { l.push .streamEnd with ended := true }
  | some x => l.step x

/-- How many tokens are settled: in front of a place where a key may have started, one may still come. -/
def settled (l : Lexer) : Nat :=
  (l.candidates.filter (! l.isStale ·)).foldl (fun least c => min least c.place) l.tokens.size

/-- Takes tokens up to the end of the text, or up to what is no token. A text has fewer tokens than `fuel`. -/
def run (fuel : Nat) (l : Lexer) : Scan :=
  match fuel with
  | 0 => ⟨[], .malformed⟩
  | fuel + 1 =>
    if l.ended then { tokens := l.tokens.toList }
    else match l.advance with
      | .ok l => run fuel l
      | .error stop => ⟨(l.tokens.take l.settled).toList, stop⟩

end Lexer

def scan (text : String) : Scan :=
  let cs := text.toList
  if cs.all isAllowed then Lexer.run (cs.length + 2) { cursor := { rest := cs } } else { tokens := [] }

end FunctionMetrics.Yaml
