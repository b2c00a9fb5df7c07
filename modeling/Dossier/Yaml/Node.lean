import Dossier.Yaml.Token.Basic

/-!
# Nodes

A document is a tree of scalars, sequences and mappings, in which an alias stands for a node that
bears an anchor. `Tree.ofTokens?` builds the tree of a text's only document from its tokens.

An anchor is numbered, when its node begins, by the number of names that anchors have had so far.
The number stays even when a later anchor gets it as well, and an alias stands for the node that
got its number last.
-/

namespace Dossier.Yaml

/-- A node. A plain scalar is one without quotes or block indicator. -/
inductive Node where
  | scalar (tag : Option String) (plain : Bool) (text : String)
  | sequence (tag : Option String) (items : List Node)
  | mapping (tag : Option String) (entries : List (Node × Node))
  | reference (number : Nat)
  deriving Inhabited, Repr

namespace Node

/-- The node of nothing. -/
def empty : Node := scalar none true ""

mutual

/-- The number of scalars, aliases and ends of collections in a node. -/
def size : Node → Nat
  | scalar .. | reference _ => 1
  | sequence _ items => 2 + sizeItems items
  | mapping _ entries => 2 + sizeEntries entries

/-- The size of the items of a sequence. -/
def sizeItems : List Node → Nat
  | [] => 0
  | n :: rest => n.size + sizeItems rest

/-- The size of the entries of a mapping. -/
def sizeEntries : List (Node × Node) → Nat
  | [] => 0
  | (k, v) :: rest => k.size + v.size + sizeEntries rest

end

end Node

/-- The tree of a document: its root, unless the text holds no document, and the nodes by
number. -/
structure Tree where
  root : Option Node
  anchored : List (Nat × Node)

/-! ## Reading nodes -/

/-- The reading of nodes: the tokens that are left, the numbers of the anchors' names, which anchor
got a number last, the nodes of the anchors, the number of anchors, and the starts of tags by
handle. -/
structure Reading where
  tokens : List Token
  numbers : List (String × Nat) := []
  latest : List (Nat × Nat) := []
  nodes : List (Nat × Node) := []
  anchors : Nat := 0
  handles : List (String × String) := []

/-- A step of reading, which may fail. -/
abbrev Reader := StateT Reading Option

namespace Reader

/-- The next token, if there is one. -/
def peek? : Reader (Option Token) := return (← get).tokens.head?

/-- Passes over the next token. -/
def skip : Reader Unit := modify fun r => { r with tokens := r.tokens.drop 1 }

/-- The token after the next one, which is passed over. -/
def afterSkip : Reader (Option Token) := do
  skip
  peek?

/-- Whether a token is one of those given. Where there is none, the text ends. -/
def among (t : Option Token) (ts : List Token) : Bool := t.any ts.contains

/-- Numbers an anchor and enters it as one of those that begin. -/
def beginAnchor (name : String) : Reader Nat := do
  let r ← get
  let number := r.numbers.length
  set { r with
    numbers := (name, number) :: r.numbers.filter (·.1 != name)
    latest := (number, r.anchors) :: r.latest
    anchors := r.anchors + 1 }
  return r.anchors

/-- The starts that tags have unless a directive says otherwise. -/
def defaultHandles : List (String × String) := [("!", "!"), ("!!", "tag:yaml.org,2002:")]

/-- The tag that a handle and a suffix write. -/
def expandTag (handle suffix : String) : Reader String := do
  if handle.isEmpty then return suffix
  let some start := ((← get).handles ++ defaultHandles).lookup handle | failure
  return start ++ suffix

/-- The anchor and the tag before a node, in either order. -/
def properties : Reader (Option String × Option String) := do
  match ← peek? with
  | some (.anchor name) =>
    match ← afterSkip with
    | some (.tag handle suffix) =>
      skip
      return (some name, some (← expandTag handle suffix))
    | _ => return (some name, none)
  | some (.tag handle suffix) =>
    match ← afterSkip with
    | some (.anchor name) =>
      skip
      return (some name, some (← expandTag handle suffix))
    | _ => return (none, some (← expandTag handle suffix))
  | _ => return (none, none)

/-- A scalar with its tag. The tag `!` on a scalar is no tag. -/
def scalarNode (tag : Option String) (plain : Bool) (text : String) : Node :=
  .scalar (tag.filter (· != "!")) plain text

mutual

/-- A node. Block collections are read where `block` allows, and sequences without indentation of
their own where `indentless` does. -/
def node : (fuel : Nat) → (block indentless : Bool) → Reader Node
  | 0, _, _ => failure
  | fuel + 1, block, indentless => do
    match ← peek? with
    | some (.reference name) =>
      skip
      let some number := (← get).numbers.lookup name | failure
      return .reference number
    | _ =>
      let (anchor, tag) ← properties
      match anchor with
      | none => content fuel block indentless tag false
      | some name =>
        let start ← beginAnchor name
        let n ← content fuel block indentless tag true
        modify fun r => { r with nodes := (start, n) :: r.nodes }
        return n

/-- A node without its anchor and tag. A node that has one of them may be empty. -/
def content : (fuel : Nat) → (block indentless : Bool) → Option String → (anchored : Bool) →
    Reader Node
  | 0, _, _, _, _ => failure
  | fuel + 1, block, indentless, tag, anchored => do
    match ← peek?, block, indentless with
    | some .blockEntry, _, true => return .sequence tag (← indentlessItems fuel)
    | some (.scalar plain text), _, _ =>
      skip
      return scalarNode tag plain text
    | some .flowSequenceStart, _, _ =>
      skip
      return .sequence tag (← flowItems fuel true)
    | some .flowMappingStart, _, _ =>
      skip
      return .mapping tag (← flowEntries fuel true)
    | some .blockSequenceStart, true, _ =>
      skip
      return .sequence tag (← blockItems fuel)
    | some .blockMappingStart, true, _ =>
      skip
      return .mapping tag (← blockEntries fuel)
    | _, _, _ => if anchored || tag.isSome then return .scalar tag true "" else failure

/-- A node, or the empty one if one of the given tokens comes next. -/
def nodeUnless : (fuel : Nat) → (ends : List Token) → (block indentless : Bool) → Reader Node
  | 0, _, _, _ => failure
  | fuel + 1, ends, block, indentless => do
    if among (← peek?) ends then return .empty else node fuel block indentless

/-- The items of a block sequence. -/
def blockItems : (fuel : Nat) → Reader (List Node)
  | 0 => failure
  | fuel + 1 => do
    match ← peek? with
    | some .blockEntry =>
      skip
      let item ← nodeUnless fuel [.blockEntry, .blockEnd] true false
      return item :: (← blockItems fuel)
    | some .blockEnd =>
      skip
      return []
    | _ => failure

/-- The items of a block sequence without indentation of its own. -/
def indentlessItems : (fuel : Nat) → Reader (List Node)
  | 0 => failure
  | fuel + 1 => do
    match ← peek? with
    | some .blockEntry =>
      skip
      let item ← nodeUnless fuel [.blockEntry, .key, .value, .blockEnd] true false
      return item :: (← indentlessItems fuel)
    | _ => return []

/-- The entries of a block mapping. -/
def blockEntries : (fuel : Nat) → Reader (List (Node × Node))
  | 0 => failure
  | fuel + 1 => do
    match ← peek? with
    | some .key =>
      skip
      let k ← nodeUnless fuel [.key, .value, .blockEnd] true true
      let v ← blockValue fuel
      return (k, v) :: (← blockEntries fuel)
    | some .blockEnd =>
      skip
      return []
    | _ => failure

/-- The value of an entry of a block mapping. -/
def blockValue : (fuel : Nat) → Reader Node
  | 0 => failure
  | fuel + 1 => do
    match ← peek? with
    | some .value =>
      skip
      nodeUnless fuel [.key, .value, .blockEnd] true true
    | _ => return .empty

/-- The items of a flow sequence. An item that begins with a mark of a key is a mapping of one
entry. -/
def flowItems : (fuel : Nat) → (first : Bool) → Reader (List Node)
  | 0, _ => failure
  | fuel + 1, first => do
    match ← peek?, first with
    | some .flowSequenceEnd, _ =>
      skip
      return []
    | some .flowEntry, false => flowItemsAfterComma fuel (← afterSkip)
    | t, true => flowItemsAfterComma fuel t
    | _, false => failure

/-- The items of a flow sequence from the token after a comma on. -/
def flowItemsAfterComma : (fuel : Nat) → Option Token → Reader (List Node)
  | 0, _ => failure
  | fuel + 1, t => do
    match t with
    | some .flowSequenceEnd =>
      skip
      return []
    | some .key =>
      skip
      let entry ← pairInSequence fuel
      return .mapping none [entry] :: (← flowItems fuel false)
    | _ =>
      let item ← node fuel false false
      return item :: (← flowItems fuel false)

/-- The only entry of a mapping that is an item of a flow sequence. Where the key is left out the
token in its place is passed over. -/
def pairInSequence : (fuel : Nat) → Reader (Node × Node)
  | 0 => failure
  | fuel + 1 => do
    let k ←
      if among (← peek?) [.value, .flowEntry, .flowSequenceEnd] then
        skip
        pure Node.empty
      else node fuel false false
    match ← peek? with
    | some .value =>
      skip
      return (k, ← nodeUnless fuel [.flowEntry, .flowSequenceEnd] false false)
    | _ => return (k, .empty)

/-- The entries of a flow mapping. -/
def flowEntries : (fuel : Nat) → (first : Bool) → Reader (List (Node × Node))
  | 0, _ => failure
  | fuel + 1, first => do
    match ← peek?, first with
    | some .flowMappingEnd, _ =>
      skip
      return []
    | some .flowEntry, false => flowEntriesAfterComma fuel (← afterSkip)
    | t, true => flowEntriesAfterComma fuel t
    | _, false => failure

/-- The entries of a flow mapping from the token after a comma on. A key without a mark has no
value. -/
def flowEntriesAfterComma : (fuel : Nat) → Option Token → Reader (List (Node × Node))
  | 0, _ => failure
  | fuel + 1, t => do
    match t with
    | some .flowMappingEnd =>
      skip
      return []
    | some .key =>
      skip
      let k ← nodeUnless fuel [.value, .flowEntry, .flowMappingEnd] false false
      let v ←
        match ← peek? with
        | some .value =>
          skip
          nodeUnless fuel [.flowEntry, .flowMappingEnd] false false
        | _ => pure Node.empty
      return (k, v) :: (← flowEntries fuel false)
    | _ =>
      let k ← node fuel false false
      return (k, .empty) :: (← flowEntries fuel false)

end

/-! ## Reading a document -/

/-- The directives before a document. At most one names a version, which must be 1.1 or 1.2, and
none defines a handle again. -/
def directives : (fuel : Nat) → (versioned : Bool) → Reader Bool
  | 0, versioned => return versioned
  | fuel + 1, versioned => do
    match ← peek? with
    | some (.versionDirective major minor) =>
      if versioned || major != 1 || (minor != 1 && minor != 2) then failure
      skip
      let _ ← directives fuel true
      return true
    | some (.tagDirective handle start) =>
      if ((← get).handles.lookup handle).isSome then failure
      modify fun r => { r with handles := (handle, start) :: r.handles }
      skip
      let _ ← directives fuel versioned
      return true
    | _ => return versioned

/-- Passes over the marks that end a document. -/
def documentEnds : Reader Unit :=
  modify fun r => { r with tokens := r.tokens.dropWhile (· == .documentEnd) }

/-- The root of the only document, if there is one. Directives stand before a mark that begins
it. -/
def document (fuel : Nat) : Reader (Option Node) := do
  if (← peek?).isNone then return none
  let explicit ← directives fuel false
  match ← peek?, explicit with
  | some .documentStart, _ =>
    let t ← afterSkip
    let isEmpty :=
      match t with
      | none | some (.versionDirective ..) | some (.tagDirective ..) | some .documentStart
      | some .documentEnd => true
      | _ => false
    let n ← if isEmpty then pure Node.empty else node fuel true false
    documentEnds
    return some n
  | _, false =>
    let n ← node fuel true false
    documentEnds
    return some n
  | _, true => failure

end Reader

/-- The nodes by number, of those with one number the one that began last. -/
def Reading.anchored (r : Reading) : List (Nat × Node) :=
  r.latest.filterMap fun (number, start) => (r.nodes.lookup start).map (number, ·)

/-- The tree of the only document that tokens form. -/
def Tree.ofTokens? (tokens : List Token) : Option Tree := do
  let (root, r) ← (Reader.document (4 * tokens.length + 8)).run { tokens := tokens }
  if r.tokens.isEmpty then return ⟨root, r.anchored⟩ else none

end Dossier.Yaml
