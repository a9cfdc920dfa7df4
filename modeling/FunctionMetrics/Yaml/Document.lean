import FunctionMetrics.Yaml.Graph
import FunctionMetrics.Yaml.Lexer
import FunctionMetrics.Yaml.Schema

/-! # From tokens to a graph

Tokens are put together to scalars, sequences and mappings; tags are written out and aliases replaced by the number of
the node they stand for. Tokens are asked for one by one, so a fault behind the place where a document goes wrong is
never met. -/

namespace FunctionMetrics.Yaml

structure Builder where
  tokens : List Token
  /-- What is met behind the last token. -/
  stop : Stop
  handles : List (String × String) := []
  anchors : List (String × Nat) := []
  nodes : Graph := #[]

abbrev Build := StateT Builder (Except Stop)

namespace Build

def malformed {α : Type} : Build α := throw .malformed

/-! ## Tokens -/

def peek : Build Token := do
  match (← get).tokens with
  | [] => throw (← get).stop
  | t :: _ => return t

def sees (ts : List Token) : Build Bool := do return ts.contains (← peek)

def drop : Build Unit := modify fun b => { b with tokens := b.tokens.drop 1 }

def takes (t : Token) : Build Bool := do
  if ← sees [t] then
    drop
    return true
  else return false

def expect (t : Token) : Build Unit := do
  if ! (← takes t) then malformed

/-! ## Anchors and tags -/

def anchorName? : Build (Option String) := do
  match ← peek with
  | .anchor name =>
    drop
    return some name
  | _ => return none

/-- The tag here: its handle, if it has one, and what follows it. -/
def tagParts? : Build (Option (Option String × String)) := do
  match ← peek with
  | .tag handle suffix =>
    drop
    return some (handle, suffix)
  | _ => return none

def tagText (parts : Option (Option String × String)) : Build (Option String) := do
  match parts with
  | none => return none
  | some (none, suffix) => return some suffix
  | some (some handle, suffix) =>
    match (← get).handles.lookup handle with
    | some start => return some (start ++ suffix)
    | none => malformed

def bind (anchor : Option String) (n : Nat) : Build Unit :=
  match anchor with
  | none => pure ()
  | some name => modify fun b => { b with anchors := (name, n) :: b.anchors }

def checkFresh (anchor : Option String) : Build Unit := do
  match anchor with
  | none => pure ()
  | some name => if ((← get).anchors.lookup name).isSome then malformed

/-! ## Nodes -/

def add (node : Node) : Build Nat :=
  modifyGet fun b => (b.nodes.size, { b with nodes := b.nodes.push node })

/-- A scalar without a tag, or with the tag that is an exclamation mark, has the kind that its text shows. -/
def scalarTag (tag : Option String) (plain : Bool) (text : Text.Codes) : Tag :=
  match tag with
  | none => if plain then Schema.tagOf text else .str
  | some "!" => Schema.tagOf text
  | some t => Tag.ofText t

def collectionTag (tag : Option String) (absent : Tag) : Tag :=
  match tag with
  | none | some "!" => absent
  | some t => Tag.ofText t

def addScalar (anchor tag : Option String) (plain : Bool) (text : Text.Codes) : Build Nat := do
  let n ← add (.scalar (scalarTag tag plain text) text)
  bind anchor n
  return n

/-- Adds a collection; its anchor has a meaning for what is in it. -/
def addCollection (anchor : Option String) (start : Node) (whole : Build Node) : Build Nat := do
  let n ← add start
  bind anchor n
  let node ← whole
  modify fun b => { b with nodes := b.nodes.setIfInBounds n node }
  return n

def addEmpty : Build Nat := add (.scalar .null [])

mutual

def node (fuel : Nat) (block indentless : Bool) : Build Nat :=
  match fuel with
  | 0 => malformed
  | fuel + 1 => do
    if let .alias name ← peek then
      drop
      match (← get).anchors.lookup name with
      | some n => return n
      | none => malformed
    else
      let first ← anchorName?
      let parts ← tagParts?
      let anchor ← if first.isSome then pure first else anchorName?
      let tag ← tagText parts
      let sequence (items : Build (List Nat)) : Build Nat := do
        checkFresh anchor
        let t := collectionTag tag .seq
        addCollection anchor (.sequence t []) do return .sequence t (← items)
      let mapping (entries : Build (List Link)) : Build Nat := do
        checkFresh anchor
        let t := collectionTag tag .map
        addCollection anchor (.mapping t []) do return .mapping t (← entries)
      match ← peek with
      | .scalar text plain =>
        checkFresh anchor
        drop
        addScalar anchor tag plain text
      | .blockEntry => if indentless then sequence (indentlessItems fuel) else emptyNode anchor tag
      | .flowSequenceStart => sequence do
        drop
        flowItems fuel true
      | .flowMappingStart => mapping do
        drop
        flowEntries fuel true
      | .blockSequenceStart =>
        if block then sequence do
          drop
          blockItems fuel
        else emptyNode anchor tag
      | .blockMappingStart =>
        if block then mapping do
          drop
          blockEntries fuel
        else emptyNode anchor tag
      | _ => emptyNode anchor tag

/-- An empty scalar may stand where an anchor or a tag is given. -/
def emptyNode (anchor tag : Option String) : Build Nat := do
  if anchor = none ∧ tag = none then malformed
  checkFresh anchor
  addScalar anchor tag (tag = none) []

/-- A node, or an empty scalar before one of the tokens `ends`. -/
def nodeUnless (fuel : Nat) (ends : List Token) (block indentless : Bool) : Build Nat :=
  match fuel with
  | 0 => malformed
  | fuel + 1 => do
    if ← sees ends then addEmpty else node fuel block indentless

def blockItems (fuel : Nat) : Build (List Nat) :=
  match fuel with
  | 0 => malformed
  | fuel + 1 => do
    if ← takes .blockEntry then
      let item ← nodeUnless fuel [.blockEntry, .blockEnd] true false
      return item :: (← blockItems fuel)
    else
      expect .blockEnd
      return []

/-- The items of a sequence that is indented like the key it belongs to. -/
def indentlessItems (fuel : Nat) : Build (List Nat) :=
  match fuel with
  | 0 => malformed
  | fuel + 1 => do
    if ← takes .blockEntry then
      let item ← nodeUnless fuel [.blockEntry, .key, .value, .blockEnd] true false
      return item :: (← indentlessItems fuel)
    else return []

def blockEntries (fuel : Nat) : Build (List Link) :=
  match fuel with
  | 0 => malformed
  | fuel + 1 => do
    let ends : List Token := [.key, .value, .blockEnd]
    if ← takes .key then
      let k ← nodeUnless fuel ends true true
      let v ← if ← takes .value then nodeUnless fuel ends true true else addEmpty
      return (k, v) :: (← blockEntries fuel)
    else
      expect .blockEnd
      return []

/-- The items up to the closing bracket; a comma stands between two of them. -/
def flowItems (fuel : Nat) (first : Bool) : Build (List Nat) :=
  match fuel with
  | 0 => malformed
  | fuel + 1 => do
    if ← takes .flowSequenceEnd then return []
    if ! first then expect .flowEntry
    if ← takes .key then
      let pair ← addCollection none (.mapping .map []) do
        let k ← nodeUnless fuel [.value, .flowEntry, .flowSequenceEnd] false false
        let v ← if ← takes .value then nodeUnless fuel [.flowEntry, .flowSequenceEnd] false false else addEmpty
        return .mapping .map [(k, v)]
      return pair :: (← flowItems fuel false)
    if ← takes .flowSequenceEnd then return []
    let item ← node fuel false false
    return item :: (← flowItems fuel false)

/-- The entries up to the closing brace; a comma stands between two of them. -/
def flowEntries (fuel : Nat) (first : Bool) : Build (List Link) :=
  match fuel with
  | 0 => malformed
  | fuel + 1 => do
    if ← takes .flowMappingEnd then return []
    if ! first then expect .flowEntry
    if ← takes .key then
      let k ← nodeUnless fuel [.value, .flowEntry, .flowMappingEnd] false false
      let v ← if ← takes .value then nodeUnless fuel [.flowEntry, .flowMappingEnd] false false else addEmpty
      return (k, v) :: (← flowEntries fuel false)
    if ← takes .flowMappingEnd then return []
    let k ← node fuel false false
    return (k, ← addEmpty) :: (← flowEntries fuel false)

end

/-! ## Documents -/

def knownHandles : List (String × String) := [("!", "!"), ("!!", Tag.standard)]

/-- Enough for any node that is made of the tokens that are left. -/
def fuelFor : Build Nat := do return 4 * (← get).tokens.length + 4

/-- Reads the directives of a document: at most one version, which is 1, and no handle twice. -/
def directives (fuel : Nat) (versioned : Bool) (handles : List (String × String)) : Build (List (String × String)) :=
  match fuel with
  | 0 => malformed
  | fuel + 1 => do
    match ← peek with
    | .directive d =>
      drop
      match d with
      | .version major _ => if versioned ∨ major ≠ 1 then malformed else directives fuel true handles
      | .tag handle start =>
        if (handles.lookup handle).isSome then malformed else directives fuel versioned ((handle, start) :: handles)
      | .other => directives fuel versioned handles
    | _ => return handles

def documentStart : Build Unit := do
  let handles ← directives (← fuelFor) false []
  modify fun b => { b with handles := handles ++ knownHandles }
  expect .documentStart

def content : Build Nat := do
  match ← peek with
  | .directive _ | .documentStart | .documentEnd | .streamEnd => addEmpty
  | _ => node (← fuelFor) true false

def skipEnds (fuel : Nat) : Build Unit :=
  match fuel with
  | 0 => pure ()
  | fuel + 1 => do if ← takes .documentEnd then skipEnds fuel

/-- Nothing but its end may follow a document, no second one either. -/
def finish : Build Unit := do
  skipEnds (← fuelFor)
  if ! (← sees [.streamEnd]) then
    documentStart
    malformed

/-- The root of a text's only document; `none` where there is no document. -/
def document : Build (Option Nat) := do
  match ← peek with
  | .streamEnd => return none
  | .directive _ | .documentStart =>
    documentStart
    let root ← content
    finish
    return some root
  | _ =>
    modify fun b => { b with handles := knownHandles }
    let root ← node (← fuelFor) true false
    finish
    return some root

end Build

/-- The graph of a text and its root; a text without a document has none. -/
def document (text : String) : Except Stop (Option Nat × Graph) := do
  let s := scan text
  let (root, b) ← Build.document.run { tokens := s.tokens, stop := s.stop }
  return (root, b.nodes)

end FunctionMetrics.Yaml
