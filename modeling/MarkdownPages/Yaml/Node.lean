import MarkdownPages.Yaml.Token

/-!
# Nodes of a document

Tokens form nodes: scalars, sequences and mappings, each with an optional tag and anchor, and
aliases of anchored nodes. A node that is left out is a plain scalar without text.

## Main definitions

* `Yaml.Node` — a node
* `Yaml.Parsing` — the tokens left, with what tags and anchors mean so far
* `Yaml.Node.ofTokens?` — the single document that tokens hold

## Implementation notes

An anchored node is numbered by the number of different anchors before it. An anchor that is set
again therefore gets a new number, which the next new anchor shares; an alias stands for the last
node in the document that has the number.

Every step either passes a token or hands over to a reader of a smaller part, so a multiple of
the number of tokens bounds the steps.
-/

namespace MarkdownPages

namespace Yaml

/-- A node. -/
inductive Node where
  | scalar (anchor : Option Nat) (tag : Option (List Char)) (plain : Bool) (text : List Char)
  | sequence (anchor : Option Nat) (tag : Option (List Char)) (items : List Node)
  | mapping (anchor : Option Nat) (tag : Option (List Char)) (entries : List (Node × Node))
  | aliasOf (number : Nat)
deriving Inhabited, Repr

namespace Node

/-- A node that is left out. -/
def empty : Node := .scalar none none true []

end Node

/-- The tokens left, with what tags and anchors mean so far. -/
structure Parsing where
  tokens : List Token
  /-- The meanings of the handles of tags. -/
  handles : List (List Char × List Char)
  /-- The numbers of the anchors. -/
  anchors : List (List Char × Nat) := []
deriving Inhabited, Repr

/-- A reader of tokens that may find none it can read. -/
abbrev Parser := StateT Parsing Option

namespace Parser

/-- The next token. -/
def peek? : Parser (Option Token) := return (← get).tokens.head?

/-- Passes the next token. -/
def skip : Parser Unit := modify fun p => { p with tokens := p.tokens.tail }

/-- Passes the next token if it is a given one, and says whether it was. -/
def accept (token : Token) : Parser Bool := do
  if (← peek?) == some token then
    skip
    return true
  else return false

/-- Passes a given token. -/
def expect (token : Token) : Parser Unit := do
  if (← accept token) then return else failure

/-! ### Properties of a node -/

/-- The meaning of a tag. -/
def resolveTag (tag : TagText) : Parser (List Char) := do
  if tag.handle.isEmpty then return tag.suffix
  match (← get).handles.lookup tag.handle with
  | some meaning => return meaning ++ tag.suffix
  | none => failure

/-- The tag that stands here, if there is one. -/
def tag? : Parser (Option (List Char)) := do
  match (← peek?) with
  | some (.tag tag) =>
    skip
    return some (← resolveTag tag)
  | _ => return none

/-- The anchor that stands here, if there is one. -/
def anchor? : Parser (Option (List Char)) := do
  match (← peek?) with
  | some (.anchor name) =>
    skip
    return some name
  | _ => return none

/-- An anchor and a tag, in either order, each of them optional. -/
def properties : Parser (Option (List Char) × Option (List Char)) := do
  match (← anchor?) with
  | some name => return (some name, ← tag?)
  | none =>
    match (← tag?) with
    | some tag => return (← anchor?, some tag)
    | none => return (none, none)

/-- The number for a node with the given anchor. -/
def number : Option (List Char) → Parser (Option Nat)
  | none => return none
  | some name => do
    let p ← get
    let number := p.anchors.length
    set { p with anchors := (name, number) :: p.anchors.filter (·.1 ≠ name) }
    return some number

/-! ### Collections -/

/-- Tokens before which an item of a block sequence is left out. -/
def endsItem : Token → Bool
  | .blockEntry | .blockEnd => true
  | _ => false

/-- Tokens before which an item of a sequence without indentation is left out. -/
def endsLevelItem : Token → Bool
  | .blockEntry | .key | .value | .blockEnd => true
  | _ => false

/-- Tokens before which a key or value of a block mapping is left out. -/
def endsEntry : Token → Bool
  | .key | .value | .blockEnd => true
  | _ => false

/-- Tokens before which a key or value of a single entry between square brackets is left out. -/
def endsPair : Token → Bool
  | .flowEntry | .flowSequenceEnd => true
  | _ => false

/-- Tokens before which a value between curly brackets is left out. -/
def endsFlowEntry : Token → Bool
  | .flowEntry | .flowMappingEnd => true
  | _ => false

mutual

/-- A node. Block collections are read where `block` says so, and a sequence that is not indented
where `level` does. -/
def node (block level : Bool) : Nat → Parser Node
  | 0 => failure
  | fuel + 1 => do
    if let some (.aliasOf name) := (← peek?) then
      skip
      match (← get).anchors.lookup name with
      | some number => return .aliasOf number
      | none => failure
    let (anchor, tag) ← properties
    match (← peek?), block, level with
    | some .blockEntry, _, true =>
      let number ← number anchor
      return .sequence number tag (← levelItems fuel)
    | some (.scalar plain text), _, _ =>
      skip
      return .scalar (← number anchor) (if tag = some ['!'] then none else tag) plain text
    | some .flowSequenceStart, _, _ =>
      skip
      let number ← number anchor
      return .sequence number tag (← flowItems true fuel)
    | some .flowMappingStart, _, _ =>
      skip
      let number ← number anchor
      return .mapping number tag (← flowEntries true fuel)
    | some .blockSequenceStart, true, _ =>
      skip
      let number ← number anchor
      return .sequence number tag (← blockItems fuel)
    | some .blockMappingStart, true, _ =>
      skip
      let number ← number anchor
      return .mapping number tag (← blockEntries fuel)
    | _, _, _ =>
      if anchor.isSome || tag.isSome then return .scalar (← number anchor) tag true []
      else failure

/-- A node, unless one of some tokens stands here. -/
def optional (block level : Bool) (ends : Token → Bool) : Nat → Parser Node
  | 0 => failure
  | fuel + 1 => do
    if (← peek?).any ends then return .empty else node block level fuel

/-- The items of a block sequence. -/
def blockItems : Nat → Parser (List Node)
  | 0 => failure
  | fuel + 1 => do
    if (← accept .blockEntry) then
      let item ← optional true false endsItem fuel
      return item :: (← blockItems fuel)
    else
      expect .blockEnd
      return []

/-- The items of a sequence that is not indented. -/
def levelItems : Nat → Parser (List Node)
  | 0 => failure
  | fuel + 1 => do
    if (← accept .blockEntry) then
      let item ← optional true false endsLevelItem fuel
      return item :: (← levelItems fuel)
    else return []

/-- The entries of a block mapping. -/
def blockEntries : Nat → Parser (List (Node × Node))
  | 0 => failure
  | fuel + 1 => do
    if (← accept .key) then
      let key ← optional true true endsEntry fuel
      let value ←
        if (← accept .value) then optional true true endsEntry fuel else pure .empty
      return (key, value) :: (← blockEntries fuel)
    else
      expect .blockEnd
      return []

/-- The items between square brackets. An item may be a single entry of a mapping; a key that is
left out there takes the next token with it. -/
def flowItems (first : Bool) : Nat → Parser (List Node)
  | 0 => failure
  | fuel + 1 => do
    if (← accept .flowSequenceEnd) then return []
    if !first then expect .flowEntry
    if (← accept .flowSequenceEnd) then return []
    if (← accept .key) then
      let key ←
        if (← peek?).any fun t => t == .value || endsPair t then
          skip
          pure .empty
        else node false false fuel
      let value ← if (← accept .value) then optional false false endsPair fuel else pure .empty
      return .mapping none none [(key, value)] :: (← flowItems false fuel)
    let item ← node false false fuel
    return item :: (← flowItems false fuel)

/-- The entries between curly brackets. -/
def flowEntries (first : Bool) : Nat → Parser (List (Node × Node))
  | 0 => failure
  | fuel + 1 => do
    if (← accept .flowMappingEnd) then return []
    if !first then expect .flowEntry
    if (← accept .flowMappingEnd) then return []
    if (← accept .key) then
      let key ← optional false false (fun t => t == .value || endsFlowEntry t) fuel
      let value ←
        if (← accept .value) then optional false false endsFlowEntry fuel else pure .empty
      return (key, value) :: (← flowEntries false fuel)
    let key ← node false false fuel
    return (key, .empty) :: (← flowEntries false fuel)

end

/-! ### Documents -/

/-- The handles with a meaning of their own. -/
def commonHandles : List (List Char × List Char) :=
  [(['!'], ['!']), (['!', '!'], "tag:yaml.org,2002:".toList)]

/-- The directives that stand here: at most one version, which has to be 1.1 or 1.2, and at most
one meaning for a handle. -/
def directives (versioned : Bool) : Nat → Parser Unit
  | 0 => failure
  | fuel + 1 => do
    match (← peek?) with
    | some (.directive (.version major minor)) =>
      if versioned || major ≠ 1 || (minor ≠ 1 && minor ≠ 2) then failure
      skip
      directives true fuel
    | some (.directive (.tag handle meaning)) =>
      let p ← get
      if (p.handles.lookup handle).isSome then failure
      skip
      modify fun p => { p with handles := p.handles ++ [(handle, meaning)] }
      directives versioned fuel
    | _ => modify fun p => { p with handles := p.handles ++ commonHandles }

/-- Whether a token bounds a document. -/
def isBound : Token → Bool
  | .directive _ | .documentStart | .documentEnd => true
  | _ => false

/-- The content of a document whose start was marked. -/
def content (fuel : Nat) : Parser Node := do
  match (← peek?) with
  | none => return .empty
  | some token => if isBound token then return .empty else node true false fuel

/-- The first document, if there is one. -/
def document? (fuel : Nat) : Parser (Option Node) := do
  match (← peek?) with
  | none => return none
  | some token =>
    directives false fuel
    match token with
    | .directive _ | .documentStart =>
      expect .documentStart
      return some (← content fuel)
    | _ => return some (← node true false fuel)

end Parser

namespace Node

/-- The document that tokens hold, unless they hold several or do not form one. No document at
all is a node that is left out. -/
def ofTokens? (tokens : List Token) : Option Node := do
  let fuel := 4 * tokens.length + 8
  let (node, after) ← (Parser.document? fuel).run { tokens := tokens, handles := [] }
  guard (after.tokens.all (· == .documentEnd))
  return node.getD .empty

end Node

end Yaml

end MarkdownPages
