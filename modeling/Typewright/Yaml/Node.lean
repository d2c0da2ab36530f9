import Typewright.Yaml.Token.Lexer

/-!
The nodes of a document, with tags, styles and aliases as written. An alias names its target by
the number that its anchor had when the alias was read; the anchor started last under a number is
the target.
-/
namespace Typewright.Yaml

inductive Node where
  | scalar (tag : Option String) (text : String) (style : Style)
  | sequence (tag : Option String) (items : List Node)
  | mapping (tag : Option String) (entries : List (Node × Node))
  | alias (number : Nat)
deriving Inhabited

namespace Node

def nothing : Node := scalar none "" .plain

mutual

/-- How many steps a reader takes through the node: one for a scalar or an alias, and two, for
start and end, for a collection. -/
def steps : Node → Nat
  | .scalar .. => 1
  | .sequence _ items => stepsOfItems items + 2
  | .mapping _ entries => stepsOfEntries entries + 2
  | .alias _ => 1

def stepsOfItems : List Node → Nat
  | [] => 0
  | item :: rest => steps item + stepsOfItems rest

def stepsOfEntries : List (Node × Node) → Nat
  | [] => 0
  | (key, value) :: rest => steps key + steps value + stepsOfEntries rest

end

end Node

structure Tree where
  root : Node
  isBlank : Bool
  /-- The start number of the anchor that each alias number stands for, the latest first. -/
  starts : List (Nat × Nat)
  targets : List (Nat × Node)

def Tree.target? (tree : Tree) (number : Nat) : Option Node := do
  let start ← tree.starts.lookup number
  tree.targets.lookup start

structure Reading where
  tokens : List Token
  handles : List (String × String) := []
  numbers : List (String × Nat) := []
  starts : List (Nat × Nat) := []
  targets : List (Nat × Node) := []

abbrev Reader := StateT Reading (Except Fault)

namespace Reader

def peek : Reader (Option Token) := return (← get).tokens.head?

def drop : Reader Unit := modify fun r => { r with tokens := r.tokens.drop 1 }

def accept (token : Token) : Reader Bool := do
  if (← peek) = some token then
    drop
    return true
  else return false

def expect (token : Token) : Reader Unit := do
  unless ← accept token do throw .arrangement

def nextIn (tokens : List Token) : Reader Bool := return (← peek).any tokens.contains

/-- The number of a new anchor is the count of distinct names before it. -/
def startAnchor (name : String) : Reader Nat := do
  let reading ← get
  let distinct := (reading.numbers.map Prod.fst).eraseDups.length
  let start := reading.starts.length
  set { reading with
    numbers := (name, distinct) :: reading.numbers
    starts := (distinct, start) :: reading.starts }
  return start

def finishAnchor (start? : Option Nat) (node : Node) : Reader Node := do
  if let some start := start? then
    modify fun r => { r with targets := (start, node) :: r.targets }
  return node

def tagText (handle suffix : String) : Reader String := do
  if handle = "" then return suffix
  let own := (← get).handles.lookup handle
  let standard := if handle = "!" then some "!"
    else if handle = "!!" then some "tag:yaml.org,2002:" else none
  match own.or standard with
  | some start => return start ++ suffix
  | none => throw .arrangement

def properties : Reader (Option Nat × Option String) := do
  match ← peek with
  | some (.anchor name) =>
    drop
    match ← peek with
    | some (.tag handle suffix) =>
      drop
      let tag ← tagText handle suffix
      return (some (← startAnchor name), some tag)
    | _ => return (some (← startAnchor name), none)
  | some (.tag handle suffix) =>
    drop
    match ← peek with
    | some (.anchor name) =>
      drop
      let tag ← tagText handle suffix
      return (some (← startAnchor name), some tag)
    | _ => return (none, some (← tagText handle suffix))
  | _ => return (none, none)

/-- Where a node may stand: in a flow collection, in a block, or as a value in a block, where a
sequence need not be indented. -/
inductive Place where
  | flow
  | block
  | blockValue
deriving DecidableEq

mutual

/-- Reads a node. All readers of this group take a bound on their steps. -/
def node : Nat → Place → Reader Node
  | 0, _ => throw .arrangement
  | fuel + 1, place => do
    if let some (.alias name) := ← peek then
      drop
      match (← get).numbers.lookup name with
      | some number => return .alias number
      | none => throw .unknownAlias
    let (anchor, tag) ← properties
    let token ← peek
    if place = .blockValue ∧ token = some .blockEntry then
      finishAnchor anchor (.sequence tag (← looseItems fuel))
    else
      match token with
      | some (.scalar text style) =>
        drop
        finishAnchor anchor (.scalar (if tag = some "!" then none else tag) text style)
      | some .flowSequenceStart =>
        drop
        finishAnchor anchor (.sequence tag (← flowItems fuel true))
      | some .flowMappingStart =>
        drop
        finishAnchor anchor (.mapping tag (← flowEntries fuel true))
      | _ =>
        if place ≠ .flow ∧ token = some .blockSequenceStart then
          drop
          finishAnchor anchor (.sequence tag (← blockItems fuel))
        else if place ≠ .flow ∧ token = some .blockMappingStart then
          drop
          finishAnchor anchor (.mapping tag (← blockEntries fuel))
        else if anchor.isSome || tag.isSome then
          finishAnchor anchor (.scalar tag "" .plain)
        else throw .arrangement

def nodeBefore : Nat → Place → List Token → Reader Node
  | 0, _, _ => throw .arrangement
  | fuel + 1, place, ends => do
    if ← nextIn ends then return .nothing else node fuel place

def blockItems : Nat → Reader (List Node)
  | 0 => throw .arrangement
  | fuel + 1 => do
    if ← accept .blockEntry then
      let item ← nodeBefore fuel .block [.blockEntry, .blockEnd]
      return item :: (← blockItems fuel)
    else
      expect .blockEnd
      return []

/-- The items of a sequence that is not indented more than the keys around it. -/
def looseItems : Nat → Reader (List Node)
  | 0 => throw .arrangement
  | fuel + 1 => do
    if ← accept .blockEntry then
      let item ← nodeBefore fuel .block [.blockEntry, .key, .value, .blockEnd]
      return item :: (← looseItems fuel)
    else return []

def blockEntries : Nat → Reader (List (Node × Node))
  | 0 => throw .arrangement
  | fuel + 1 => do
    if ← accept .key then
      let key ← nodeBefore fuel .blockValue [.key, .value, .blockEnd]
      let value ←
        if ← accept .value then nodeBefore fuel .blockValue [.key, .value, .blockEnd]
        else pure .nothing
      return (key, value) :: (← blockEntries fuel)
    else
      expect .blockEnd
      return []

def flowPair : Nat → Reader Node
  | 0 => throw .arrangement
  | fuel + 1 => do
    let key ←
      if ← nextIn [.value, .flowEntry, .flowSequenceEnd] then
        drop
        pure .nothing
      else node fuel .flow
    let value ←
      if ← accept .value then nodeBefore fuel .flow [.flowEntry, .flowSequenceEnd]
      else pure .nothing
    return .mapping none [(key, value)]

def flowItems : Nat → Bool → Reader (List Node)
  | 0, _ => throw .arrangement
  | fuel + 1, first => do
    if ← accept .flowSequenceEnd then return []
    unless first do expect .flowEntry
    if ← accept .flowSequenceEnd then return []
    let item ← if ← accept .key then flowPair fuel else node fuel .flow
    return item :: (← flowItems fuel false)

def flowEntries : Nat → Bool → Reader (List (Node × Node))
  | 0, _ => throw .arrangement
  | fuel + 1, first => do
    if ← accept .flowMappingEnd then return []
    unless first do expect .flowEntry
    if ← accept .flowMappingEnd then return []
    if ← accept .key then
      let key ← nodeBefore fuel .flow [.value, .flowEntry, .flowMappingEnd]
      let value ←
        if ← accept .value then nodeBefore fuel .flow [.flowEntry, .flowMappingEnd]
        else pure .nothing
      return (key, value) :: (← flowEntries fuel false)
    else
      let key ← node fuel .flow
      return (key, .nothing) :: (← flowEntries fuel false)

end

def directives : Nat → Bool → Reader Unit
  | 0, _ => throw .arrangement
  | fuel + 1, versioned => do
    match ← peek with
    | some (.version major minor) =>
      if versioned || major ≠ 1 || (minor ≠ 1 && minor ≠ 2) then throw .arrangement
      drop
      directives fuel true
    | some (.tagDirective handle start) =>
      if ((← get).handles.lookup handle).isSome then throw .arrangement
      modify fun r => { r with handles := (handle, start) :: r.handles }
      drop
      directives fuel versioned
    | _ => return ()

def isDirective : Token → Bool
  | .version .. => true
  | .tagDirective .. => true
  | _ => false

def skipDocumentEnds : Nat → Reader Unit
  | 0 => return ()
  | fuel + 1 => do if ← accept .documentEnd then skipDocumentEnds fuel

def document (fuel : Nat) : Reader (Node × Bool) := do
  let first ← peek
  if first.isNone then return (.nothing, true)
  let root ←
    if first = some .documentStart ∨ first.any isDirective then do
      directives fuel false
      expect .documentStart
      let next ← peek
      if next.all fun t => isDirective t || t == .documentStart || t == .documentEnd then
        pure .nothing
      else node fuel .block
    else if first = some .documentEnd then throw .arrangement
    else node fuel .block
  skipDocumentEnds fuel
  if (← peek).isSome then throw .severalDocuments
  return (root, false)

end Reader

def Tree.read (text : String) : Except Fault Tree := do
  let tokens ← Token.scan text
  let ((root, isBlank), reading) ← (Reader.document (4 * tokens.length + 8)).run { tokens }
  return ⟨root, isBlank, reading.starts, reading.targets⟩

end Typewright.Yaml
