import Lightpath.Yaml.Token

/-!
# Nodes

The tree that a text writes. Its leaves are scalars, whatever they say, and aliases, which stand
for other nodes. A text writes one tree, and the empty text an empty scalar.

Aliases know nodes by numbers. A name gets its number where it is declared: it is how many
different names have been declared so far. A name that is declared again has then a number that
the next new name gets too. An alias takes the number that its name has there, and stands for the
last node of the text that is declared under that number, before it or behind it.
-/

namespace Lightpath.Yaml

/-- A tree of sequences and mappings with scalars and aliases as leaves. -/
inductive Node where
  | scalar (text : String) (style : Style) (tag : Option TagText)
  | sequence (items : List Node)
  | mapping (entries : List (Node × Node))
  | alias (number : Nat)
deriving Inhabited

/-- A tree with the nodes that its aliases stand for. -/
structure Tree where
  root : Node
  /-- The nodes that are declared under numbers, the last one of a number first. -/
  declared : List (Nat × Node) := []
deriving Inhabited

namespace Node

/-- What stands where nothing is written. -/
def empty : Node := .scalar "" .plain none

/-- What is known in the midst of the tokens. -/
structure Place where
  tokens : List Token
  /-- The names with their numbers, each name once. -/
  names : List (String × Nat) := []
  /-- The nodes that are declared, the first one first. A node is empty as long as it is read. -/
  declared : List (Nat × Node) := []
  /-- What the handles of tags stand for. -/
  heads : List (String × TagText) := []
deriving Inhabited

/-- Reads a part of the tokens. -/
abbrev Reader := StateT Place Option

/-- The next token. -/
def peek : Reader (Option Token) := return (← get).tokens.head?

/-- Goes on by a token. -/
def next : Reader Unit := modify fun p => { p with tokens := p.tokens.drop 1 }

/-- Goes on if a given token is next. -/
def accept (t : Token) : Reader Bool := do
  if (← peek) = some t then
    next
    return true
  else return false

/-- Whether one of several tokens is next. -/
def sees (ts : List Token) : Reader Bool := return (← peek).any ts.contains

/-- The alias of a name, which has to be known. -/
def aliasOf (name : String) : Reader Node := do
  match (← get).names.find? (·.1 = name) with
  | some (_, number) => return .alias number
  | none => failure

/-- Keeps a place for a node that may have a name. -/
def declare (name : Option String) : Reader (Option Nat) := do
  match name with
  | none => return none
  | some name =>
    let p ← get
    let number := p.names.length
    set { p with
      names := (name, number) :: p.names.filter (·.1 ≠ name)
      declared := p.declared ++ [(number, empty)] }
    return some p.declared.length

/-- Puts a node in the place that was kept for it. -/
def define (slot : Option Nat) (node : Node) : Reader Unit :=
  modify fun p =>
    match slot with
    | none => p
    | some i => { p with declared := p.declared.modify i fun (number, _) => (number, node) }

/-- A tag in full. -/
def resolve (handle : String) (tail : TagText) : Reader TagText := do
  if handle.isEmpty then return tail
  match (← get).heads.find? (·.1 = handle) with
  | some (_, head) => return head ++ tail
  | none => failure

/-- The name of the node that is next. -/
def readAnchor : Reader (Option String) := do
  match ← peek with
  | some (.anchor name) =>
    next
    return some name
  | _ => return none

/-- The tag of the node that is next. -/
def readTag : Reader (Option TagText) := do
  match ← peek with
  | some (.tag handle tail) =>
    next
    return some (← resolve handle tail)
  | _ => return none

/-- The name and the tag of the node that is next, in either order. -/
def readProperties : Reader (Option String × Option TagText) := do
  match ← readAnchor with
  | some name => return (some name, ← readTag)
  | none =>
    let tag ← readTag
    if tag.isSome then return (← readAnchor, tag) else return (none, none)

mutual

/-- Reads a node. Outside brackets it may be a block, and as a part of a mapping also a sequence
    that is not indented. -/
def readNode : (fuel : Nat) → (inBlock unindented : Bool) → Reader Node
  | 0, _, _ => failure
  | fuel + 1, inBlock, unindented => do
    match ← peek with
    | some (.alias name) =>
      next
      aliasOf name
    | _ =>
      let (name, tag) ← readProperties
      let slot ← declare name
      let node ← readContent fuel inBlock unindented (name.isSome || tag.isSome) tag
      define slot node
      return node

/-- Reads a node behind its properties. With these it may also be empty. -/
def readContent : (fuel : Nat) → (inBlock unindented mayBeEmpty : Bool) →
    (tag : Option TagText) → Reader Node
  | 0, _, _, _, _ => failure
  | fuel + 1, inBlock, unindented, mayBeEmpty, tag => do
    match ← peek, inBlock, unindented with
    | some .blockEntry, _, true => return .sequence (← readUnindented fuel)
    | some (.scalar text style), _, _ =>
      next
      return .scalar text style tag
    | some .flowSequenceStart, _, _ =>
      next
      return .sequence (← readFlowItems fuel true)
    | some .flowMappingStart, _, _ =>
      next
      return .mapping (← readFlowEntries fuel true)
    | some .blockSequenceStart, true, _ =>
      next
      return .sequence (← readItems fuel)
    | some .blockMappingStart, true, _ =>
      next
      return .mapping (← readEntries fuel)
    | _, _, _ => if mayBeEmpty then return .scalar "" .plain tag else failure

/-- Reads a node unless one of several tokens is next. -/
def readUnless : (fuel : Nat) → (stops : List Token) → (inBlock unindented : Bool) → Reader Node
  | 0, _, _, _ => failure
  | fuel + 1, stops, inBlock, unindented => do
    if ← sees stops then return empty else readNode fuel inBlock unindented

/-- Reads the value of a key, if there is one. -/
def readValue : (fuel : Nat) → (stops : List Token) → (inBlock : Bool) → Reader Node
  | 0, _, _ => failure
  | fuel + 1, stops, inBlock => do
    if ← accept .value then readUnless fuel stops inBlock inBlock else return empty

/-- Reads the items of a block up to its end. -/
def readItems : (fuel : Nat) → Reader (List Node)
  | 0 => failure
  | fuel + 1 => do
    if ← accept .blockEnd then return []
    else if ← accept .blockEntry then
      let item ← readUnless fuel [.blockEntry, .blockEnd] true false
      return item :: (← readItems fuel)
    else failure

/-- Reads the items of a sequence that is not indented. -/
def readUnindented : (fuel : Nat) → Reader (List Node)
  | 0 => failure
  | fuel + 1 => do
    if ← accept .blockEntry then
      let item ← readUnless fuel [.blockEntry, .key, .value, .blockEnd] true false
      return item :: (← readUnindented fuel)
    else return []

/-- Reads the entries of a block up to its end. -/
def readEntries : (fuel : Nat) → Reader (List (Node × Node))
  | 0 => failure
  | fuel + 1 => do
    if ← accept .blockEnd then return []
    else if ← accept .key then
      let stops := [Token.key, .value, .blockEnd]
      let key ← readUnless fuel stops true true
      let value ← readValue fuel stops true
      return (key, value) :: (← readEntries fuel)
    else failure

/-- Reads the items between brackets up to the closing one. A pair by itself is a mapping. -/
def readFlowItems : (fuel : Nat) → (isFirst : Bool) → Reader (List Node)
  | 0, _ => failure
  | fuel + 1, isFirst => do
    if ← accept .flowSequenceEnd then return []
    if !isFirst then
      if !(← accept .flowEntry) then failure
    if ← accept .flowSequenceEnd then return []
    let item ←
      if ← accept .key then readPair fuel
      else readNode fuel false false
    return item :: (← readFlowItems fuel false)

/-- Reads a pair by itself. What stands behind the mark of a key without a node is taken for a part
    of the mark. -/
def readPair : (fuel : Nat) → Reader Node
  | 0 => failure
  | fuel + 1 => do
    let key ←
      if ← sees [.value, .flowEntry, .flowSequenceEnd] then
        next
        pure empty
      else readNode fuel false false
    let value ← readValue fuel [.flowEntry, .flowSequenceEnd] false
    return .mapping [(key, value)]

/-- Reads the entries between braces up to the closing one. A node by itself is a key. -/
def readFlowEntries : (fuel : Nat) → (isFirst : Bool) → Reader (List (Node × Node))
  | 0, _ => failure
  | fuel + 1, isFirst => do
    if ← accept .flowMappingEnd then return []
    if !isFirst then
      if !(← accept .flowEntry) then failure
    if ← accept .flowMappingEnd then return []
    let entry ←
      if ← accept .key then
        let key ← readUnless fuel [.value, .flowEntry, .flowMappingEnd] false false
        let value ← readValue fuel [.flowEntry, .flowMappingEnd] false
        pure (key, value)
      else
        let key ← readNode fuel false false
        pure (key, empty)
    return entry :: (← readFlowEntries fuel false)

end

/-- Reads directives: at most one version, which has to be a known one, and no handle twice. -/
def readDirectives : (fuel : Nat) → (versioned : Bool) → Reader Unit
  | 0, _ => failure
  | fuel + 1, versioned => do
    match ← peek with
    | some (.version major minor) =>
      if versioned ∨ major ≠ 1 ∨ (minor ≠ 1 ∧ minor ≠ 2) then failure
      next
      readDirectives fuel true
    | some (.tagHandle handle head) =>
      let p ← get
      if p.heads.any (·.1 = handle) then failure
      set { p with heads := p.heads ++ [(handle, head)] }
      next
      readDirectives fuel versioned
    | _ => return

/-- With what the tags of the types begin that every reader knows. -/
def coreHead : TagText := "tag:yaml.org,2002:".toUTF8.toList

/-- The handles that need no directive. -/
def defaultHeads : List (String × TagText) :=
  [("!", "!".toUTF8.toList), ("!!", coreHead)]

/-- Goes on behind the marks that end a document. -/
def skipEnds : Reader Unit :=
  modify fun p => { p with tokens := p.tokens.dropWhile (· = .documentEnd) }

/-- Whether a token belongs to a document with a mark. -/
def isMark : Token → Bool
  | .version .. => true
  | .tagHandle .. => true
  | .documentStart => true
  | _ => false

/-- Reads the only document. With a mark it may be empty. -/
def readDocument (fuel : Nat) : Reader Node := do
  match ← peek with
  | none => return empty
  | some first =>
    let node ←
      if isMark first then
        readDirectives fuel false
        if !(← accept .documentStart) then failure
        modify fun p => { p with heads := p.heads ++ defaultHeads }
        match ← peek with
        | none => pure empty
        | some t => if isMark t || t = .documentEnd then pure empty else readNode fuel true false
      else
        modify fun p => { p with heads := defaultHeads }
        readNode fuel true false
    skipEnds
    if (← peek).isSome then failure
    return node

/-- The tree that tokens write. -/
def treeOfTokens? (tokens : List Token) : Option Tree :=
  (readDocument (4 * tokens.length + 8) { tokens }).map fun (root, p) =>
    { root, declared := p.declared.reverse }

mutual

/-- How many marks and leaves a tree is written with: one a leaf, and one each where a sequence or
    a mapping begins and ends. -/
def size : Node → Nat
  | .scalar .. => 1
  | .alias _ => 1
  | .sequence items => 2 + sizeOfItems items
  | .mapping entries => 2 + sizeOfEntries entries

/-- The sizes of items together. -/
def sizeOfItems : List Node → Nat
  | [] => 0
  | item :: items => item.size + sizeOfItems items

/-- The sizes of keys and values together. -/
def sizeOfEntries : List (Node × Node) → Nat
  | [] => 0
  | (key, value) :: entries => key.size + value.size + sizeOfEntries entries

end

end Node

end Lightpath.Yaml
