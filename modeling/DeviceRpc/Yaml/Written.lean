import DeviceRpc.Yaml.Token

/-!
# Documents as they are written

The tree of a document before its aliases are followed. Only one document may be
there, and its tags are spelled out.

**Slots.** An anchor gives its node a slot, and an alias refers to the slot that its
name then has. The slot is the number of names so far, and a name that is used
again gets a new slot without being counted again; so two anchors can come to share
a slot, and the later node is what both their aliases stand for.
-/

namespace DeviceRpc.Yaml

/-- A node as it is written. -/
inductive Written where
  | alias (slot : Nat)
  | scalar (slot : Option Nat) (style : ScalarStyle) (tag : Option String) (text : String)
  | sequence (slot : Option Nat) (items : List Written)
  | mapping (slot : Option Nat) (pairs : List (Written × Written))
  deriving Inhabited, Repr

namespace Written

/-- The node of nothing at all. -/
def blank : Written := .scalar none .plain none ""

/-- What is left of the tokens, and what the names in them stand for. -/
structure Reader where
  tokens : List Token
  /-- The slots of the anchors, each name once. -/
  slots : List (String × Nat) := []
  /-- The texts of the handles. -/
  handles : List (String × String) := []

/-- Reading a node moves on in the tokens. -/
abbrev Read := StateT Reader Option

/-- The next token. -/
def peek : Read (Option Token) := do return (← get).tokens.head?

/-- Past the next token. -/
def advance : Read Unit := modify fun r => { r with tokens := r.tokens.tail }

/-- Past one token that must come next. -/
def expect (t : Token) : Read Unit := do
  if (← peek) = some t then advance else failure

/-- Past one token if it comes next, and whether it did. -/
def take? (t : Token) : Read Bool := do
  if (← peek) = some t then
    advance
    return true
  else return false

/-! ## Properties -/

/-- The slot of an anchor that comes next. -/
def anchor? : Read (Option Nat) := do
  match ← peek with
  | some (.anchor name) =>
    advance
    let r ← get
    let slot := r.slots.length
    set { r with slots := (name, slot) :: r.slots.filter (·.1 ≠ name) }
    return some slot
  | _ => return none

/-- A tag that comes next, spelled out. -/
def tag? : Read (Option String) := do
  match ← peek with
  | some (.tag t) =>
    advance
    if t.handle = "" then return some t.suffix
    else return some ((← (← getThe Reader).handles.lookup t.handle) ++ t.suffix)
  | _ => return none

/-- An anchor and a tag, either first, as far as they come next. -/
def properties : Read (Option Nat × Option String) := do
  match ← anchor? with
  | some slot => return (some slot, ← tag?)
  | none =>
    let tag ← tag?
    if tag.isSome then return (← anchor?, tag) else return (none, none)

/-! ## Nodes -/

/-- Whether the next token is one of some, or there is none. -/
def endsAt (ts : List Token) : Read Bool := do
  return (← peek).all (ts.contains ·)

mutual

/-- A node. In block context a block collection may come, and where a mapping
allows it also items at the mapping's own column. -/
def read (inBlock itemsHere : Bool) : (fuel : Nat) → Read Written
  | 0 => failure
  | fuel + 1 => do
    if let some (.alias name) ← peek then
      advance
      return .alias (← (← getThe Reader).slots.lookup name)
    let (slot, tag) ← properties
    let nothing : Read Written :=
      if slot.isSome || tag.isSome then return .scalar slot .plain tag "" else failure
    match ← peek with
    | some (.scalar style text) =>
      advance
      return .scalar slot style tag text
    | some .flowSequenceStart =>
      advance
      return .sequence slot (← flowItems true fuel)
    | some .flowMappingStart =>
      advance
      return .mapping slot (← flowPairs true fuel)
    | some .blockEntry =>
      if itemsHere then return .sequence slot (← blockItems false fuel) else nothing
    | some .blockSequenceStart =>
      if inBlock then
        advance
        return .sequence slot (← blockItems true fuel)
      else nothing
    | some .blockMappingStart =>
      if inBlock then
        advance
        return .mapping slot (← blockPairs fuel)
      else nothing
    | _ => nothing

/-- A node, or nothing before one of some tokens. -/
def readUnless (stops : List Token) (inBlock itemsHere : Bool) : (fuel : Nat) → Read Written
  | 0 => failure
  | fuel + 1 => do
    if ← endsAt stops then return blank else read inBlock itemsHere fuel

/-- The items of a block sequence; one that stands at the column of a mapping has
no closing token. -/
def blockItems (closes : Bool) : (fuel : Nat) → Read (List Written)
  | 0 => failure
  | fuel + 1 => do
    if ← take? .blockEntry then
      let stops := if closes then [.blockEntry, .blockEnd]
        else [.blockEntry, .key, .value, .blockEnd]
      let item ← readUnless stops true false fuel
      return item :: (← blockItems closes fuel)
    else if closes then
      expect .blockEnd
      return []
    else return []

/-- The pairs of a block mapping. -/
def blockPairs : (fuel : Nat) → Read (List (Written × Written))
  | 0 => failure
  | fuel + 1 => do
    let stops := [.key, .value, .blockEnd]
    if ← take? .key then
      let key ← readUnless stops true true fuel
      let value ← if ← take? .value then readUnless stops true true fuel else pure blank
      return (key, value) :: (← blockPairs fuel)
    else
      expect .blockEnd
      return []

/-- The items between square brackets; a pair among them is a mapping of its
own. -/
def flowItems (first : Bool) : (fuel : Nat) → Read (List Written)
  | 0 => failure
  | fuel + 1 => do
    if ← take? .flowSequenceEnd then return []
    if !first then expect .flowEntry
    if ← take? .flowSequenceEnd then return []
    let item ← if ← take? .key then
        let key ← flowKey fuel
        let value ← if ← take? .value then
            readUnless [.flowEntry, .flowSequenceEnd] false false fuel
          else pure blank
        pure (.mapping none [(key, value)])
      else read false false fuel
    return item :: (← flowItems false fuel)

/-- The key of a pair between square brackets. Where there is none, the token that
shows it is passed over. -/
def flowKey : (fuel : Nat) → Read Written
  | 0 => failure
  | fuel + 1 => do
    if ← endsAt [.value, .flowEntry, .flowSequenceEnd] then
      advance
      return blank
    else read false false fuel

/-- The pairs between braces. -/
def flowPairs (first : Bool) : (fuel : Nat) → Read (List (Written × Written))
  | 0 => failure
  | fuel + 1 => do
    if ← take? .flowMappingEnd then return []
    if !first then expect .flowEntry
    if ← take? .flowMappingEnd then return []
    let pair ← if ← take? .key then
        let key ← readUnless [.value, .flowEntry, .flowMappingEnd] false false fuel
        let value ← if ← take? .value then
            readUnless [.flowEntry, .flowMappingEnd] false false fuel
          else pure blank
        pure (key, value)
      else do
        let key ← read false false fuel
        pure (key, blank)
    return pair :: (← flowPairs false fuel)

end

/-! ## Documents -/

/-- The handles that a document knows unless it tells otherwise. -/
def defaultHandles : List (String × String) := [("!", "!"), ("!!", "tag:yaml.org,2002:")]

/-- Takes in the directives: one version at most, of those that are known, and no
handle twice. Gives whether there were any. -/
def directives : (fuel : Nat) → (versioned : Bool) → Read Bool
  | 0, _ => failure
  | fuel + 1, versioned => do
    match ← peek with
    | some (.directive (.version major minor)) =>
      if versioned || major ≠ 1 || (minor ≠ 1 && minor ≠ 2) then failure
      else
        advance
        discard (directives fuel true)
        return true
    | some (.directive (.handle name text)) =>
      let r ← get
      if (r.handles.lookup name).isSome then failure
      else
        set { r with handles := (name, text) :: r.handles }
        advance
        discard (directives fuel versioned)
        return true
    | _ => return false

/-- Past the marks that a document ended. -/
def skipEnds : Read Unit := modify fun r =>
  { r with tokens := r.tokens.dropWhile (· = .documentEnd) }

/-- Whether the next token is a directive. -/
def atDirective : Read Bool := do
  return (← peek).any fun
    | .directive _ => true
    | _ => false

/-- Exactly one document. -/
def document (fuel : Nat) : Read Written := do
  let directed ← directives fuel false
  modify fun r => { r with handles := r.handles ++ defaultHandles }
  let marked ← take? .documentStart
  if directed && !marked then failure
  if !marked && (← peek).isNone then failure
  let root ← if marked && ((← atDirective) || (← endsAt [.documentStart, .documentEnd])) then
      pure blank
    else read true false fuel
  skipEnds
  if (← peek).isSome then failure
  return root

/-- The only document of a text. -/
def ofText? (s : String) : Option Written := do
  let tokens ← tokens? s
  (document (2 * tokens.length + 4)).run' { tokens }

end Written

end DeviceRpc.Yaml
