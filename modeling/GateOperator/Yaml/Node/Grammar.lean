import GateOperator.Yaml.Node
import GateOperator.Yaml.Token

/-!
Gathering tokens into the nodes of a document. There is at most one document. Nothing where a node may
stand is an empty scalar; an anchor counts from the start of its node on, and the last anchor of a name is
the one that an alias means.
-/

namespace GateOperator.Yaml

/-- What remains to be read, and what has been seen of anchors and tag handles. -/
structure Parse where
  tokens : List Token
  /-- The starts of tags that handles stand for. -/
  handles : List (String × String) := []
  /-- The anchors by name, last first. -/
  names : List (String × Nat) := []
  anchored : List (Nat × Node) := []
  nextAnchor : Nat := 0
  size : Nat := 0

namespace Parse

/-- Reads from the tokens, or fails. -/
abbrev Reader := StateT Parse Option

/-- The next token. -/
def peek : Reader (Option Token) := return (← get).tokens.head?

/-- Passes over a token. -/
def advance : Reader Unit := modify fun p => { p with tokens := p.tokens.tail }

/-- Counts parts of the document. -/
def count (n : Nat) : Reader Unit := modify fun p => { p with size := p.size + n }

/-- An empty scalar. -/
def emptyNode : Reader Node := do
  count 1
  return .empty

/-- The tag that a handle and a suffix stand for. An unknown handle is refused. -/
def resolveTag (handle suffix : String) : Reader String := do
  if handle = "" then return suffix
  match (← get).handles.lookup handle with
  | some tagStart => return tagStart ++ suffix
  | none => failure

/-- The anchor and tag before a node, in either order. -/
def properties : Reader (Option String × Option String) := do
  match ← peek with
  | some (.anchor name) =>
    advance
    match ← peek with
    | some (.tag handle suffix) =>
      advance
      return (some name, some (← resolveTag handle suffix))
    | _ => return (some name, none)
  | some (.tag handle suffix) =>
    advance
    match ← peek with
    | some (.anchor name) =>
      advance
      return (some name, some (← resolveTag handle suffix))
    | _ => return (none, some (← resolveTag handle suffix))
  | _ => return (none, none)

/-- Gives an anchor its number. -/
def declare (name : Option String) : Reader (Option Nat) := do
  match name with
  | none => return none
  | some name =>
    let p ← get
    set { p with names := (name, p.nextAnchor) :: p.names, nextAnchor := p.nextAnchor + 1 }
    return some p.nextAnchor

/-- Keeps a node under the number of its anchor. -/
def keep (anchor : Option Nat) (n : Node) : Reader Node := do
  if let some id := anchor then modify fun p => { p with anchored := (id, n) :: p.anchored }
  return n

/-- No node stands here inside a block list. -/
def endsItem : Option Token → Bool
  | some .blockEntry | some .blockEnd => true
  | _ => false

/-- No node stands here inside a list at the column of its map. -/
def endsLooseItem : Option Token → Bool
  | some .blockEntry | some .key | some .value | some .blockEnd => true
  | _ => false

/-- No node stands here inside a block map. -/
def endsEntry : Option Token → Bool
  | some .key | some .value | some .blockEnd => true
  | _ => false

/-- No node stands here inside a flow list. -/
def endsFlowItem : Option Token → Bool
  | some .flowEntry | some .flowListEnd => true
  | _ => false

/-- No node stands here inside a flow map. -/
def endsFlowEntry : Option Token → Bool
  | some .flowEntry | some .flowMapEnd => true
  | _ => false

mutual

/-- A node; block collections are allowed in a block, and a list at the column of its map may be `loose`. -/
def node : Nat → Bool → Bool → Reader Node
  | 0, _, _ => failure
  | fuel + 1, inBlock, loose => do
    if let some (.reuse name) ← peek then
      advance
      count 1
      match (← get).names.lookup name with
      | some id => return .reuse id
      | none => failure
    let (name, tag) ← properties
    let anchor ← declare name
    let start ← peek
    match start with
    | some (.scalar isPlain text) =>
      advance
      count 1
      keep anchor (.scalar (if tag = some "!" then none else tag) isPlain text)
    | some .flowListStart =>
      advance
      count 2
      keep anchor (.list tag (← flowItems fuel true []))
    | some .flowMapStart =>
      advance
      count 2
      keep anchor (.map tag (← flowEntries fuel true []))
    | _ =>
      if loose && start = some .blockEntry then
        count 2
        keep anchor (.list tag (← looseItems fuel []))
      else if inBlock && start = some .blockList then
        advance
        count 2
        keep anchor (.list tag (← blockItems fuel []))
      else if inBlock && start = some .blockMap then
        advance
        count 2
        keep anchor (.map tag (← blockEntries fuel []))
      else if name.isSome || tag.isSome then
        count 1
        keep anchor (.scalar tag true "")
      else failure

/-- The items of a block list, last first. -/
def blockItems : Nat → List Node → Reader (List Node)
  | 0, _ => failure
  | fuel + 1, items => do
    match ← peek with
    | some .blockEntry =>
      advance
      let item ← if endsItem (← peek) then emptyNode else node fuel true false
      blockItems fuel (item :: items)
    | some .blockEnd =>
      advance
      return items.reverse
    | _ => failure

/-- The items of a list at the column of its map, last first. -/
def looseItems : Nat → List Node → Reader (List Node)
  | 0, _ => failure
  | fuel + 1, items => do
    match ← peek with
    | some .blockEntry =>
      advance
      let item ← if endsLooseItem (← peek) then emptyNode else node fuel true false
      looseItems fuel (item :: items)
    | _ => return items.reverse

/-- The entries of a block map, last first. -/
def blockEntries : Nat → List (Node × Node) → Reader (List (Node × Node))
  | 0, _ => failure
  | fuel + 1, entries => do
    match ← peek with
    | some .key =>
      advance
      let key ← if endsEntry (← peek) then emptyNode else node fuel true true
      match ← peek with
      | some .value =>
        advance
        let value ← if endsEntry (← peek) then emptyNode else node fuel true true
        blockEntries fuel ((key, value) :: entries)
      | _ => blockEntries fuel ((key, ← emptyNode) :: entries)
    | some .blockEnd =>
      advance
      return entries.reverse
    | _ => failure

/-- The items of a flow list, last first. A key makes an item a map of one entry. -/
def flowItems : Nat → Bool → List Node → Reader (List Node)
  | 0, _, _ => failure
  | fuel + 1, first, items => do
    if (← peek) = some .flowListEnd then
      advance
      return items.reverse
    if !first then
      if (← peek) = some .flowEntry then advance else failure
    match ← peek with
    | some .flowListEnd =>
      advance
      return items.reverse
    | some .key =>
      advance
      count 2
      let next ← peek
      let key ←
        if next = some .value || endsFlowItem next then do
          advance
          emptyNode
        else node fuel false false
      let value ←
        if (← peek) = some .value then do
          advance
          if endsFlowItem (← peek) then emptyNode else node fuel false false
        else emptyNode
      flowItems fuel false (.map none [(key, value)] :: items)
    | _ =>
      let item ← node fuel false false
      flowItems fuel false (item :: items)

/-- The entries of a flow map, last first. A key without a colon has an empty value. -/
def flowEntries : Nat → Bool → List (Node × Node) → Reader (List (Node × Node))
  | 0, _, _ => failure
  | fuel + 1, first, entries => do
    if (← peek) = some .flowMapEnd then
      advance
      return entries.reverse
    if !first then
      if (← peek) = some .flowEntry then advance else failure
    match ← peek with
    | some .flowMapEnd =>
      advance
      return entries.reverse
    | some .key =>
      advance
      let next ← peek
      let key ← if next = some .value || endsFlowEntry next then emptyNode else node fuel false false
      let value ←
        if (← peek) = some .value then do
          advance
          if endsFlowEntry (← peek) then emptyNode else node fuel false false
        else emptyNode
      flowEntries fuel false ((key, value) :: entries)
    | _ =>
      let key ← node fuel false false
      flowEntries fuel false ((key, ← emptyNode) :: entries)

end

/-- Reads the directives before a document; each may be given once, and the version must be 1.1 or 1.2. -/
def directives : Bool → List (String × String) → List Token → Option (List (String × String) × List Token)
  | hasVersion, handles, .version major minor :: rest =>
    if hasVersion ∨ major ≠ 1 ∨ (minor ≠ 1 ∧ minor ≠ 2) then none else directives true handles rest
  | hasVersion, handles, .tagHandle handle tagStart :: rest =>
    if (handles.lookup handle).isSome then none else directives hasVersion ((handle, tagStart) :: handles) rest
  | _, handles, rest => some (handles, rest)

/-- The handles that need no directive. -/
def defaultHandles : List (String × String) := [("!", "!"), ("!!", "tag:yaml.org,2002:")]

/-- No node stands here in a document. -/
def endsDocument : Option Token → Bool
  | none | some (.version _ _) | some (.tagHandle _ _) | some .documentStart | some .documentEnd => true
  | _ => false

/-- The root of the document that begins here. -/
def root (fuel : Nat) : Reader Node := do
  match ← peek with
  | none => emptyNode
  | some (.version _ _) | some (.tagHandle _ _) | some .documentStart =>
    let (handles, rest) ← (directives false [] (← get).tokens : Option _)
    modify fun p => { p with tokens := rest, handles := handles ++ defaultHandles }
    if (← peek) = some .documentStart then advance else failure
    if endsDocument (← peek) then emptyNode else node fuel true false
  | _ => node fuel true false

end Parse

/-- The document that tokens make up; nothing may follow it but marks that end it. -/
def Document.ofTokens? (tokens : List Token) : Option Document := do
  let (root, p) ← (Parse.root (4 * tokens.length + 8)).run { tokens := tokens, handles := Parse.defaultHandles }
  if p.tokens.all (· = .documentEnd) then return ⟨root, p.anchored, p.size⟩
  none

end GateOperator.Yaml
