import DeadSymbols.Yaml.Token

/-!
# Nodes of YAML

A document is a tree of scalars, sequences and mappings. A node may have a name, its anchor, and
an alias stands for the node with a name. What a name stands for is settled when the document is
complete, so an alias may stand for a node that it is part of.

* `Document.ofTokens?`: the one document that tokens hold.
* `Document.resolve`: the node that an alias stands for.
-/

namespace DeadSymbols.Yaml

/-- A node of a document. -/
inductive Node where
  | scalar (tag : Option String) (style : Style) (value : String)
  | sequence (tag : Option String) (items : List Node)
  | mapping (tag : Option String) (pairs : List (Node × Node))
  /-- Stands for the node with a number. -/
  | alias (number : Nat)
deriving Inhabited, Repr

/-- A scalar that is not written down. -/
def Node.missing : Node := .scalar none .plain ""

/-- The state of reading nodes. -/
structure Reading where
  tokens : List Token
  /-- The tags that handles stand for. -/
  handles : List (String × String) := []
  /-- The number of each name. -/
  names : List (String × Nat) := []
  /-- For each number the nodes that got it, the latest first, by their order. -/
  births : List (Nat × Nat) := []
  /-- How many nodes have a name. -/
  born : Nat := 0
  /-- The complete nodes with a name, by their order. -/
  homes : List (Nat × Node) := []
  /-- How many events the nodes consist of. -/
  events : Nat := 0

/-- Reads nodes, or fails. -/
abbrev Reader (α : Type) := StateT Reading Option α

namespace Reader

/-- The next token. -/
def peek : Reader (Option Token) := do return (← get).tokens.head?

/-- Passes over a token. -/
def skip : Reader Unit := modify fun r => { r with tokens := r.tokens.drop 1 }

/-- Refuses the text. -/
def refuse {α : Type} : Reader α := fun _ => none

/-- Whether the next token is one of some tokens. -/
def isAt (ts : List Token) : Reader Bool := do return (← peek).any ts.contains

/-- Passes over a token that has to be there. -/
def expect (t : Token) : Reader Unit := do
  if (← peek) == some t then skip else refuse

/-- Counts events. -/
def count (n : Nat) : Reader Unit := modify fun r => { r with events := r.events + n }

/-- Puts a pair in the place of one with the same first part. -/
def assign {α β : Type} [BEq α] (key : α) (value : β) : List (α × β) → List (α × β)
  | [] => [(key, value)]
  | (k, v) :: rest => if k == key then (key, value) :: rest else (k, v) :: assign key value rest

/-- Gives the node that begins here a name. Its number is the number of names so far, which a name
that is used again does not add to. -/
def nameNode (name : String) : Reader Nat := do
  let r ← get
  let number := r.names.length
  set { r with
    names := assign name number r.names
    births := (number, r.born) :: r.births
    born := r.born + 1 }
  return r.born

/-- Keeps a complete node, if it has a name. -/
def keepNode (order : Option Nat) (n : Node) : Reader Node := do
  match order with
  | some k => modify fun r => { r with homes := (k, n) :: r.homes }
  | none => pure ()
  return n

/-- The tag that a handle and a suffix stand for. -/
def expandTag (handle suffix : String) : Reader String := do
  if handle == "" then return suffix
  match (← get).handles.lookup handle with
  | some expansion => return expansion ++ suffix
  | none => refuse

/-- Reads an anchor and a tag, in either order. Gives the order of the named node and the tag. -/
def properties : Reader (Option Nat × Option String) := do
  let anchor : Reader (Option String) := do
    match ← peek with
    | some (.anchor name) => skip; return some name
    | _ => return none
  let tag : Reader (Option (String × String)) := do
    match ← peek with
    | some (.tag handle suffix) => skip; return some (handle, suffix)
    | _ => return none
  let first ← anchor
  let t ← tag
  let name ← match first with
    | some n => pure (some n)
    | none => if t.isSome then anchor else pure none
  let t ← match t with
    | some (handle, suffix) => do pure (some (← expandTag handle suffix))
    | none => pure none
  let order ← match name with
    | some n => do pure (some (← nameNode n))
    | none => pure none
  return (order, t)

mutual

/-- Reads a node. In a block it may be a block itself, and after a key a sequence that is not
indented. -/
def node : Nat → Bool → Bool → Reader Node
  | 0, _, _ => refuse
  | fuel + 1, block, unindented => do
    match ← peek with
    | some (.alias name) =>
      skip
      count 1
      match (← get).names.lookup name with
      | some number => return .alias number
      | none => refuse
    | _ =>
      let (order, tag) ← properties
      match ← peek with
      | some .blockEntry =>
        if unindented then keepNode order (.sequence tag (← looseItems fuel))
        else bare order tag
      | some (.scalar style value) =>
        skip
        count 1
        keepNode order (.scalar (if tag == some "!" then none else tag) style value)
      | some .flowSequence => skip; keepNode order (.sequence tag (← flowItems fuel true))
      | some .flowMapping => skip; keepNode order (.mapping tag (← flowPairs fuel true))
      | some .blockSequence =>
        if block then do skip; keepNode order (.sequence tag (← blockItems fuel))
        else bare order tag
      | some .blockMapping =>
        if block then do skip; keepNode order (.mapping tag (← blockPairs fuel))
        else bare order tag
      | _ => bare order tag

/-- A node of which only the anchor or the tag is written down. -/
def bare (order : Option Nat) (tag : Option String) : Reader Node := do
  if order.isNone && tag.isNone then refuse
  else
    count 1
    keepNode order (.scalar tag .plain "")

/-- Reads a node, or a missing one if one of some tokens follows. -/
def nodeUnless : Nat → List Token → Bool → Bool → Reader Node
  | 0, _, _, _ => refuse
  | fuel + 1, ends, block, unindented => do
    if (← peek).isNone || (← isAt ends) then
      count 1
      return Node.missing
    else node fuel block unindented

/-- Reads the items of a sequence in a block. -/
def blockItems : Nat → Reader (List Node)
  | 0 => refuse
  | fuel + 1 => do
    match ← peek with
    | some .blockEntry =>
      skip
      let item ← nodeUnless fuel [.blockEntry, .blockEnd] true false
      return item :: (← blockItems fuel)
    | some .blockEnd => skip; count 2; return []
    | _ => refuse

/-- Reads the items of a sequence that is not indented. -/
def looseItems : Nat → Reader (List Node)
  | 0 => refuse
  | fuel + 1 => do
    match ← peek with
    | some .blockEntry =>
      skip
      let item ← nodeUnless fuel [.blockEntry, .key, .value, .blockEnd] true false
      return item :: (← looseItems fuel)
    | _ => count 2; return []

/-- Reads the pairs of a mapping in a block. -/
def blockPairs : Nat → Reader (List (Node × Node))
  | 0 => refuse
  | fuel + 1 => do
    match ← peek with
    | some .key =>
      skip
      let key ← nodeUnless fuel [.key, .value, .blockEnd] true true
      let value ← match ← peek with
        | some .value => do skip; nodeUnless fuel [.key, .value, .blockEnd] true true
        | _ => do count 1; pure Node.missing
      return (key, value) :: (← blockPairs fuel)
    | some .blockEnd => skip; count 2; return []
    | _ => refuse

/-- Reads the items of a sequence in brackets. An item may be a single pair. -/
def flowItems : Nat → Bool → Reader (List Node)
  | 0, _ => refuse
  | fuel + 1, first => do
    if (← peek) == some .flowSequenceEnd then
      skip
      count 2
      return []
    else
      if !first then expect .flowEntry
      match ← peek with
      | some .flowSequenceEnd => skip; count 2; return []
      | some .key =>
        skip
        let pair ← flowPair fuel
        return .mapping none [pair] :: (← flowItems fuel false)
      | _ =>
        let item ← node fuel false false
        return item :: (← flowItems fuel false)

/-- Reads a single pair in a sequence. A missing key takes the mark after it with it. -/
def flowPair : Nat → Reader (Node × Node)
  | 0 => refuse
  | fuel + 1 => do
    count 2
    let key ←
      if (← peek).isNone then refuse
      else if ← isAt [.value, .flowEntry, .flowSequenceEnd] then do
        skip
        count 1
        pure Node.missing
      else node fuel false false
    match ← peek with
    | some .value =>
      skip
      return (key, ← nodeUnless fuel [.flowEntry, .flowSequenceEnd] false false)
    | _ => count 1; return (key, Node.missing)

/-- Reads the pairs of a mapping in braces. -/
def flowPairs : Nat → Bool → Reader (List (Node × Node))
  | 0, _ => refuse
  | fuel + 1, first => do
    if (← peek) == some .flowMappingEnd then
      skip
      count 2
      return []
    else
      if !first then expect .flowEntry
      match ← peek with
      | some .flowMappingEnd => skip; count 2; return []
      | some .key =>
        skip
        let key ← nodeUnless fuel [.value, .flowEntry, .flowMappingEnd] false false
        let value ← match ← peek with
          | some .value => do
            skip
            nodeUnless fuel [.flowEntry, .flowMappingEnd] false false
          | _ => do count 1; pure Node.missing
        return (key, value) :: (← flowPairs fuel false)
      | _ =>
        let key ← node fuel false false
        count 1
        return (key, Node.missing) :: (← flowPairs fuel false)

end

/-- The handles that need no directive. -/
def knownHandles : List (String × String) := [("!", "!"), ("!!", "tag:yaml.org,2002:")]

/-- Reads the directives of a document; `seen` tells whether there was a version. -/
def directives : Nat → Bool → List (String × String) → Reader Unit
  | 0, _, _ => refuse
  | fuel + 1, seen, handles => do
    match ← peek with
    | some (.version major minor) =>
      if seen || major != 1 || !(minor == 1 || minor == 2) then refuse
      else
        skip
        directives fuel true handles
    | some (.handle name expansion) =>
      if (handles.lookup name).isSome then refuse
      else
        skip
        directives fuel seen (handles ++ [(name, expansion)])
    | _ => modify fun r => { r with handles := handles ++ knownHandles }

/-- Reads the content of a document. -/
def content (fuel : Nat) : Reader Node := do
  match ← peek with
  | some .documentStart | some .documentEnd | some (.version _ _) | some (.handle _ _) | none =>
    count 1
    return Node.missing
  | _ => node fuel true false

/-- Passes over the marks at the end of a document. -/
def documentEnds : Nat → Reader Unit
  | 0 => pure ()
  | fuel + 1 => do
    if (← peek) == some .documentEnd then
      skip
      documentEnds fuel

/-- Reads the root of the only document; none if the text is empty. -/
def root (fuel : Nat) : Reader (Option Node) := do
  match ← peek with
  | none => return none
  | some .documentStart | some (.version _ _) | some (.handle _ _) =>
    directives fuel false []
    expect .documentStart
    let n ← content fuel
    documentEnds fuel
    if (← peek).isSome then refuse else return some n
  | _ =>
    modify fun r => { r with handles := knownHandles }
    let n ← node fuel true false
    documentEnds fuel
    if (← peek).isSome then refuse else return some n

end Reader

/-- A document with the nodes that its aliases stand for. -/
structure Document where
  /-- The root; none if the text is empty. -/
  root : Option Node
  /-- The node with each number. -/
  homes : List (Nat × Node)
  /-- How many events the document consists of. -/
  events : Nat
deriving Repr

/-- The node that an alias stands for; any other node stands for itself. -/
def Document.resolve (d : Document) : Node → Option Node
  | .alias number => d.homes.lookup number
  | n => some n

/-- The node with each number: of those that got it, the last. -/
def Reading.homesByNumber (r : Reading) : List (Nat × Node) :=
  r.births.filterMap fun (number, order) => (r.homes.lookup order).map fun n => (number, n)

/-- The document that some tokens hold. A step into a node takes a token or ends soon after, so
three times their number bounds the steps. -/
def Document.ofTokens? (ts : List Token) : Option Document :=
  ((Reader.root (3 * ts.length + 10)).run { tokens := ts }).map fun (root, r) =>
    ⟨root, r.homesByNumber, r.events⟩

end DeadSymbols.Yaml
