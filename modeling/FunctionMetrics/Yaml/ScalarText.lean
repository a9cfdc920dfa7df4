import FunctionMetrics.Text.Digit
import FunctionMetrics.Yaml.Cursor

/-! # Text of scalars

A line break inside a plain or quoted scalar is a blank, and each empty line after it a break. A block scalar keeps
its lines or folds them in the same way. -/

namespace FunctionMetrics.Yaml

/-- A break between two lines of text as it is read: with `more` empty lines behind it. -/
def foldBreak (first more : List Char) : List Char :=
  (if first ≠ ['\n'] then first else if more = [] then [' '] else []) ++ more

/-! ## Plain scalars -/

/-- The empty lines behind a break of a plain scalar; `none` where the document ends. -/
def plainBreaks (fuel : Nat) (c : Cursor) : Option (List Char) × Cursor :=
  match fuel with
  | 0 => (some [], c)
  | fuel + 1 =>
    match c.peek? with
    | some ' ' => plainBreaks fuel c.next
    | some x =>
      if isBreak x then
        let (b, c) := c.lineBreak
        if c.isSeparator then (none, c)
        else
          let (more, c) := plainBreaks fuel c
          (more.map (b ++ ·), c)
      else (some [], c)
    | none => (some [], c)

/-- What may stand between two parts of a plain scalar. -/
structure PlainGap where
  text : List Char
  crossedLine : Bool
  cursor : Cursor

def plainGap (c : Cursor) : PlainGap :=
  let (spaces, c) := c.takeWhile (· = ' ')
  if c.peek?.any isBreak then
    let (first, c) := c.lineBreak
    if c.isSeparator then ⟨[], true, c⟩
    else
      let (more, c) := plainBreaks c.rest.length c
      ⟨(more.map (foldBreak first)).getD [], true, c⟩
  else ⟨spaces, false, c⟩

/-- The part of a plain scalar up to a blank or a sign that ends it. -/
def plainPart (inFlow : Bool) : List Char → List Char
  | [] => []
  | x :: rest =>
    if isBlankOrEnd (some x) then []
    else if x = ':' ∧ (isBlankOrEnd rest.head? ∨ (inFlow ∧ rest.head?.any isFlowSign)) then []
    else if inFlow ∧ (isFlowSign x ∨ x = '?') then []
    else x :: plainPart inFlow rest

structure Plain where
  text : List Char
  /-- A line was crossed behind the last part. -/
  crossedLine : Bool
  cursor : Cursor

/-- A plain scalar in a collection indented by less than `indent`, behind the text `gap`. -/
def plain (inFlow : Bool) (indent : Int) (fuel : Nat) (gap : PlainGap) : Plain :=
  let stop : Plain := ⟨[], gap.crossedLine, gap.cursor⟩
  match fuel with
  | 0 => stop
  | fuel + 1 =>
    let c := gap.cursor
    let part := plainPart inFlow c.rest
    if c.peek? = some '#' ∨ part = [] then stop
    else
      let after := plainGap (c.skip part.length)
      if after.text = [] ∨ after.cursor.peek? = some '#' ∨ (¬ inFlow ∧ (after.cursor.column : Int) < indent) then
        ⟨gap.text ++ part, after.crossedLine, after.cursor⟩
      else
        let more := plain inFlow indent fuel after
        ⟨gap.text ++ part ++ more.text, more.crossedLine, more.cursor⟩

/-! ## Quoted scalars -/

/-- The empty lines behind a break of a quoted scalar; no document may end there. -/
def quotedBreaks (fuel : Nat) (c : Cursor) : Except Stop (List Char × Cursor) :=
  match fuel with
  | 0 => .error .malformed
  | fuel + 1 =>
    if c.isSeparator then .error .malformed
    else
      let c := c.skipWhile fun x => x = ' ' ∨ x = '\t'
      if c.peek?.any isBreak then do
        let (b, c) := c.lineBreak
        let (more, c) ← quotedBreaks fuel c
        .ok (b ++ more, c)
      else .ok ([], c)

def quotedGap (c : Cursor) : Except Stop (List Char × Cursor) :=
  let (blanks, c) := c.takeWhile fun x => x = ' ' ∨ x = '\t'
  match c.peek? with
  | none => .error .malformed
  | some x =>
    if isBreak x then do
      let (first, c) := c.lineBreak
      let (more, c) ← quotedBreaks (c.rest.length + 1) c
      .ok (foldBreak first more, c)
    else .ok (blanks, c)

/-- A letter behind a backslash that stands for one character. -/
def escapeLetter? : Char → Option Char
  | '0' => some '\x00'
  | 'a' => some '\x07'
  | 'b' => some '\x08'
  | 't' | '\t' => some '\t'
  | 'n' => some '\n'
  | 'v' => some '\x0b'
  | 'f' => some '\x0c'
  | 'r' => some '\r'
  | 'e' => some '\x1b'
  | ' ' => some ' '
  | '\"' => some '\"'
  | '\\' => some '\\'
  | '/' => some '/'
  | 'N' => some '\x85'
  | '_' => some '\u00A0'
  | 'L' => some '\u2028'
  | 'P' => some '\u2029'
  | _ => none

/-- How many digits follow a letter that gives a character by its number. -/
def escapeDigits? : Char → Option Nat
  | 'x' => some 2
  | 'u' => some 4
  | 'U' => some 8
  | _ => none

/-- Numbers from here on are not even looked up. -/
def hugeCode : Nat := 0x80000000

/-- A number as a code point; half of a pair is one. -/
def codeOf (n : Nat) : Except Stop Nat :=
  if hugeCode ≤ n then .error (.fault .hugeCodePoint)
  else if 0x10FFFF < n then .error (.fault .codePoint)
  else .ok n

def escape (c : Cursor) : Except Stop (Text.Codes × Cursor) :=
  match c.peek? with
  | none => .error .malformed
  | some x =>
    match escapeLetter? x, escapeDigits? x with
    | some y, _ => .ok ([y.toNat], c.next)
    | none, some count =>
      let c := c.next
      match (c.rest.take count).mapM Text.hexValue? with
      | none => .error .malformed
      | some ds =>
        if ds.length < count then .error .malformed
        else (codeOf (Text.ofDigits 16 ds)).map fun n => ([n], c.skip count)
    | none, none =>
      if isBreak x then
        (quotedBreaks (c.rest.length + 1) c.lineBreak.2).map fun (breaks, c) => (Text.Codes.ofChars breaks, c)
      else .error .malformed

def quoted (double : Bool) (fuel : Nat) (c : Cursor) : Except Stop (Text.Codes × Cursor) :=
  match fuel with
  | 0 => .error .malformed
  | fuel + 1 => do
    match c.peek? with
    | none => .error .malformed
    | some x =>
      if x = '\'' ∧ ¬ double then
        if c.ahead? 1 = some '\'' then
          let (more, c) ← quoted double fuel (c.skip 2)
          .ok ('\''.toNat :: more, c)
        else .ok ([], c.next)
      else if x = '\"' ∧ double then .ok ([], c.next)
      else
        let (here, c) ←
          if x = '\\' ∧ double then escape c.next
          else if isBlankOrEnd (some x) then
            (quotedGap c).map fun (gap, c) => (Text.Codes.ofChars gap, c)
          else .ok ([x.toNat], c.next)
        let (more, c) ← quoted double fuel c
        .ok (here ++ more, c)

/-! ## Block scalars -/

inductive Chomping
  | strip
  | clip
  | keep
deriving DecidableEq

def chomping? : Char → Option Chomping
  | '+' => some .keep
  | '-' => some .strip
  | _ => none

def indentDigit? (c : Char) : Option Nat := if '0' ≤ c ∧ c ≤ '9' then some (c.toNat - '0'.toNat) else none

/-- The signs behind the one that opens a block scalar, in either order: chomping and indentation. -/
def blockHeader (c : Cursor) : Except Stop (Chomping × Option Nat × Cursor) :=
  let (chomp, c) := match c.peek?.bind chomping? with
    | some k => (some k, c.next)
    | none => (none, c)
  let (digit, c) := match c.peek?.bind indentDigit? with
    | some d => (some d, c.next)
    | none => (none, c)
  let (chomp, c) := match chomp, digit, c.peek?.bind chomping? with
    | none, some _, some k => (some k, c.next)
    | _, _, _ => (chomp, c)
  if digit = some 0 ∨ ¬ isSpaceOrEnd c.peek? then .error .malformed
  else .ok (chomp.getD .clip, digit, c)

def skipIndent (indent : Nat) (c : Cursor) : Cursor :=
  c.skip ((c.rest.take (indent - c.column)).takeWhile (· = ' ')).length

/-- The empty lines before the next line of a block scalar. -/
def blockBreaks (indent fuel : Nat) (c : Cursor) : List Char × Cursor :=
  let c := skipIndent indent c
  match fuel with
  | 0 => ([], c)
  | fuel + 1 =>
    if c.peek?.any isBreak then
      let (b, c) := c.lineBreak
      let (more, c) := blockBreaks indent fuel c
      (b ++ more, c)
    else ([], c)

/-- The empty lines before the first line, and the widest indentation among them and that line. -/
def blockStart (fuel widest : Nat) (c : Cursor) : List Char × Nat × Cursor :=
  match fuel with
  | 0 => ([], widest, c)
  | fuel + 1 =>
    match c.peek? with
    | some ' ' => blockStart fuel (max widest c.next.column) c.next
    | some x =>
      if isBreak x then
        let (b, c) := c.lineBreak
        let (more, widest, c) := blockStart fuel widest c
        (b ++ more, widest, c)
      else ([], widest, c)
    | none => ([], widest, c)

/-- The lines of a block scalar from here on, behind the empty lines `breaks`. -/
def blockLines (folded : Bool) (chomp : Chomping) (indent fuel : Nat) (breaks : List Char) (c : Cursor) :
    List Char × Cursor :=
  match fuel with
  | 0 => ([], c)
  | fuel + 1 =>
    if c.column ≠ indent ∨ c.peek? = none then (if chomp = .keep then breaks else [], c)
    else
      let flush := ¬ c.peek?.any fun x => x = ' ' ∨ x = '\t'
      let (line, c) := c.takeWhile (! isBreak ·)
      let (first, c) := c.lineBreak
      let (more, c) := blockBreaks indent c.rest.length c
      if c.column = indent ∧ c.peek? ≠ none then
        let joint :=
          if folded ∧ first = ['\n'] ∧ flush ∧ ¬ c.peek?.any (fun x => x = ' ' ∨ x = '\t') then
            (if more = [] then [' '] else [])
          else first
        let (later, c) := blockLines folded chomp indent fuel more c
        (breaks ++ line ++ joint ++ later, c)
      else
        (breaks ++ line ++ (if chomp = .strip then [] else first) ++ (if chomp = .keep then more else []), c)

/-- A block scalar behind its opening sign, in a collection indented by `parent`. -/
def block (folded : Bool) (parent : Int) (c : Cursor) : Except Stop (List Char × Cursor) := do
  let (chomp, digit, c) ← blockHeader c
  let c ← c.endLine
  let least := (max 1 (parent + 1)).toNat
  let (breaks, indent, c) := match digit with
    | none =>
      let (breaks, widest, c) := blockStart c.rest.length 0 c
      (breaks, max least widest, c)
    | some d =>
      let indent := least + d - 1
      let (breaks, c) := blockBreaks indent c.rest.length c
      (breaks, indent, c)
  .ok (blockLines folded chomp indent (c.rest.length + 1) breaks c)

end FunctionMetrics.Yaml
