import DateTemplate.Bindings
import DateTemplate.Yaml.Scan

set_option autoImplicit false

/-!
# YAML nodes

The tree of a document: scalars, sequences, mappings and aliases of nodes that stand before them. An
anchor counts as a number, the number of different names used before it in the document; of two nodes
with one number the later is meant.
-/

namespace DateTemplate.Yaml

/-- What stands in front of a node. -/
structure Properties where
  anchor : Option Nat := none
  tag : Option Text := none
deriving DecidableEq, Repr

/-- A node of a document. -/
inductive Node where
  | aliasOf (anchor : Nat)
  /-- A scalar; the flag says that it stands without quotes. -/
  | scalar (properties : Properties) (plain : Bool) (text : Text)
  | sequence (properties : Properties) (items : List Node)
  | mapping (properties : Properties) (entries : List (Node × Node))

namespace Node

/-- The node where nothing is written. -/
def empty : Node := .scalar {} true []

/-! ## Size and anchors -/

mutual

/-- The number of marks and scalars that make up a node. -/
def size : Node → Nat
  | aliasOf _ => 1
  | scalar .. => 1
  | sequence _ items => 2 + itemsSize items
  | mapping _ entries => 2 + entriesSize entries

/-- The size of the items of a sequence. -/
def itemsSize : List Node → Nat
  | [] => 0
  | node :: rest => node.size + itemsSize rest

/-- The size of the entries of a mapping. -/
def entriesSize : List (Node × Node) → Nat
  | [] => 0
  | (key, value) :: rest => key.size + value.size + entriesSize rest

end

/-- The entry for a node in a list of the nodes with anchors. -/
def anchorEntry (p : Properties) (node : Node) : List (Nat × Node) :=
  (p.anchor.map (·, node)).toList

mutual

/-- The nodes with anchors in a node, in order. -/
def anchored : Node → List (Nat × Node)
  | aliasOf _ => []
  | scalar p plain text => anchorEntry p (.scalar p plain text)
  | sequence p items => anchorEntry p (.sequence p items) ++ anchoredItems items
  | mapping p entries => anchorEntry p (.mapping p entries) ++ anchoredEntries entries

/-- The nodes with anchors in the items of a sequence. -/
def anchoredItems : List Node → List (Nat × Node)
  | [] => []
  | node :: rest => node.anchored ++ anchoredItems rest

/-- The nodes with anchors in the entries of a mapping. -/
def anchoredEntries : List (Node × Node) → List (Nat × Node)
  | [] => []
  | (key, value) :: rest => key.anchored ++ value.anchored ++ anchoredEntries rest

end

end Node

/-! ## Reading nodes from tokens -/

/-- The tokens still to be read, and the numbers of the anchors so far. -/
structure Pending where
  tokens : List Token
  anchors : Bindings Nat

/-- A reader of tokens, which may fail. -/
abbrev Reader := StateT Pending Option

namespace Reader

/-- The next token. -/
def peek : Reader (Option Token) := do return (← get).tokens.head?

/-- Leaves the next token out. -/
def skip : Reader Unit := modify fun s => { s with tokens := s.tokens.drop 1 }

/-- The next token, which is left out. -/
def pop : Reader (Option Token) := do
  let t ← peek
  skip
  return t

/-- Whether the next token is one of some. -/
def isAt (ts : List Token) : Reader Bool := do return (← peek).any ts.contains

/-- Leaves a given token out. -/
def expect (t : Token) : Reader Unit := do
  if (← pop) ≠ some t then failure

/-- Gives an anchor its number. -/
def defineAnchor (name : Text) : Reader Nat := do
  let s ← get
  let n := s.anchors.entries.length
  set { s with anchors := s.anchors.insert name n }
  return n

/-- The number of an anchor. -/
def anchor (name : Text) : Reader Nat := do (← get).anchors.get? name

/-- The tag of a handle and a suffix; the handle must be known unless it is empty. -/
def tag (handles : Bindings Text) (handle suffix : Text) : Reader Text :=
  if handle.isEmpty then return suffix
  else do return (← handles.get? handle) ++ suffix

/-- An anchor and a tag, in either order. -/
def properties (handles : Bindings Text) : Reader Properties := do
  match ← peek with
  | some (.anchor name) =>
    skip
    match ← peek with
    | some (.tag handle suffix) =>
      skip
      return ⟨some (← defineAnchor name), some (← tag handles handle suffix)⟩
    | _ => return ⟨some (← defineAnchor name), none⟩
  | some (.tag handle suffix) =>
    skip
    match ← peek with
    | some (.anchor name) =>
      skip
      return ⟨some (← defineAnchor name), some (← tag handles handle suffix)⟩
    | _ => return ⟨none, some (← tag handles handle suffix)⟩
  | _ => return {}

/-- The properties of a scalar: the tag `!` says nothing. -/
def scalarProperties (p : Properties) : Properties :=
  if p.tag = some ['!'] then { p with tag := none } else p

mutual

/-- A node. Block collections are allowed where `block` says so, and a block sequence without an
indentation of its own where `flush` does. The first argument bounds the work. -/
def node (handles : Bindings Text) : Nat → Bool → Bool → Reader Node
  | 0, _, _ => failure
  | fuel + 1, block, flush => do
    if let some (.aliasOf name) ← peek then
      skip
      return .aliasOf (← anchor name)
    let p ← properties handles
    match ← peek with
    | some (.scalar plain text) =>
      skip
      return .scalar (scalarProperties p) plain text
    | some .flowSequenceStart =>
      skip
      return .sequence p (← flowItems handles fuel true)
    | some .flowMappingStart =>
      skip
      return .mapping p (← flowEntries handles fuel true)
    | t =>
      if t = some .blockEntry && flush then return .sequence p (← flushItems handles fuel)
      else if t = some .blockSequenceStart && block then
        skip
        return .sequence p (← blockItems handles fuel)
      else if t = some .blockMappingStart && block then
        skip
        return .mapping p (← blockEntries handles fuel)
      -- An anchor or a tag with nothing behind it stands in front of an empty scalar.
      else if p = {} then failure
      else return .scalar p true []

/-- A node in a block collection, which is empty before some tokens. -/
def blockNode (handles : Bindings Text) : Nat → List Token → Bool → Reader Node
  | 0, _, _ => failure
  | fuel + 1, ends, flush => do
    if ← isAt ends then return .empty else node handles fuel true flush

/-- A node in a flow collection, which is empty before some tokens. -/
def flowNode (handles : Bindings Text) : Nat → List Token → Reader Node
  | 0, _ => failure
  | fuel + 1, ends => do
    if ← isAt ends then return .empty else node handles fuel false false

/-- The items of a block sequence up to its end. -/
def blockItems (handles : Bindings Text) : Nat → Reader (List Node)
  | 0 => failure
  | fuel + 1 => do
    match ← pop with
    | some .blockEntry =>
      let item ← blockNode handles fuel [.blockEntry, .blockEnd] false
      return item :: (← blockItems handles fuel)
    | some .blockEnd => return []
    | _ => failure

/-- The items of a block sequence that ends with the mapping around it. -/
def flushItems (handles : Bindings Text) : Nat → Reader (List Node)
  | 0 => failure
  | fuel + 1 => do
    if ← isAt [.blockEntry] then
      skip
      let item ← blockNode handles fuel [.blockEntry, .key, .value, .blockEnd] false
      return item :: (← flushItems handles fuel)
    else return []

/-- The entries of a block mapping up to its end. -/
def blockEntries (handles : Bindings Text) : Nat → Reader (List (Node × Node))
  | 0 => failure
  | fuel + 1 => do
    match ← pop with
    | some .key =>
      let key ← blockNode handles fuel [.key, .value, .blockEnd] true
      let value ←
        if ← isAt [.value] then
          skip
          blockNode handles fuel [.key, .value, .blockEnd] true
        else pure .empty
      return (key, value) :: (← blockEntries handles fuel)
    | some .blockEnd => return []
    | _ => failure

/-- The items of a flow sequence up to its end; a comma stands before each but the first. -/
def flowItems (handles : Bindings Text) : Nat → Bool → Reader (List Node)
  | 0, _ => failure
  | fuel + 1, first => do
    if !first && !(← isAt [.flowSequenceEnd]) then expect .flowEntry
    if ← isAt [.flowSequenceEnd] then
      skip
      return []
    else
      let item ←
        if ← isAt [.key] then
          skip
          flowPair handles fuel
        else node handles fuel false false
      return item :: (← flowItems handles fuel false)

/-- A mapping of one entry in a flow sequence. A key that is not written takes the mark behind it
along. -/
def flowPair (handles : Bindings Text) : Nat → Reader Node
  | 0 => failure
  | fuel + 1 => do
    let key ←
      if ← isAt [.value, .flowEntry, .flowSequenceEnd] then
        skip
        pure .empty
      else node handles fuel false false
    let value ←
      if ← isAt [.value] then
        skip
        flowNode handles fuel [.flowEntry, .flowSequenceEnd]
      else pure .empty
    return .mapping {} [(key, value)]

/-- The entries of a flow mapping up to its end; a comma stands before each but the first. -/
def flowEntries (handles : Bindings Text) : Nat → Bool → Reader (List (Node × Node))
  | 0, _ => failure
  | fuel + 1, first => do
    if !first && !(← isAt [.flowMappingEnd]) then expect .flowEntry
    if ← isAt [.flowMappingEnd] then
      skip
      return []
    else if ← isAt [.key] then
      skip
      let key ← flowNode handles fuel [.value, .flowEntry, .flowMappingEnd]
      let value ←
        if ← isAt [.value] then
          skip
          flowNode handles fuel [.flowEntry, .flowMappingEnd]
        else pure .empty
      return (key, value) :: (← flowEntries handles fuel false)
    else
      let key ← node handles fuel false false
      return (key, .empty) :: (← flowEntries handles fuel false)

end

/-! ## Documents -/

/-- The directives of a document: at most one version, which is 1.1 or 1.2, and handles with what
they stand for, each once. The flag says that a version has been read. -/
def directives : Nat → Bool → Bindings Text → Reader (Bindings Text)
  | 0, _, _ => failure
  | fuel + 1, versioned, handles => do
    match ← peek with
    | some (.version major minor) =>
      if versioned || major ≠ 1 || (minor ≠ 1 && minor ≠ 2) then failure
      skip
      directives fuel true handles
    | some (.tagHandle handle front) =>
      if handles.contains handle then failure
      skip
      directives fuel versioned (handles.insert handle front)
    | _ => return handles

/-- The handles of a document: its own, and two that are always known. -/
def allHandles (own : Bindings Text) : Bindings Text :=
  [("!".toList, "!".toList), ("!!".toList, "tag:yaml.org,2002:".toList)].foldl
    (fun handles (handle, front) =>
      if handles.contains handle then handles else handles.insert handle front) own

/-- Whether a token stands in front of the node of a document. -/
def opensDocument : Token → Bool
  | .version .. | .tagHandle .. | .documentStart => true
  | _ => false

/-- The node of the only document; no node if there is no document. The argument bounds the work. -/
def document (fuel : Nat) : Reader (Option Node) := do
  if (← peek).isNone then return none
  let explicit := (← peek).any opensDocument
  let handles := allHandles (← directives fuel false .empty)
  if explicit then expect .documentStart
  let isMissing := (← peek).all fun t => opensDocument t || t == .documentEnd
  let root ← if explicit && isMissing then pure .empty else node handles fuel true false
  modify fun s => { s with tokens := s.tokens.dropWhile (· == .documentEnd) }
  -- A second document is refused.
  if (← peek).isSome then failure
  return some root

end Reader

/-- The node of the only document of a stream; no node if it has no document. -/
def Node.ofText? (t : Text) : Option (Option Node) := do
  let tokens ← tokens? t
  return (← (Reader.document (3 * tokens.length + 3)).run ⟨tokens, .empty⟩).1

end DateTemplate.Yaml
