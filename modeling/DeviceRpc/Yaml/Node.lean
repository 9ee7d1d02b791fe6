import DeviceRpc.Yaml.Written

/-!
# Nodes

A document as a tree of texts, sequences and mappings, with every alias replaced
by what it stands for. `Node.ofText?` reads exactly one document.

**Room.** A short document can stand for an enormous tree, and one whose node holds
an alias of itself for an endless one. So the aliases that are followed are
counted, and a document has room for a hundred for each of its events.
-/

namespace DeviceRpc.Yaml

/-- A node of a document. -/
inductive Node where
  | scalar (style : ScalarStyle) (tag : Option String) (text : String)
  | sequence (items : List Node)
  | mapping (pairs : List (Node × Node))
  deriving Inhabited, Repr

namespace Written

mutual

/-- How many events a node is: one for a text or an alias, and the beginning and the
end of everything else. -/
def events : Written → Nat
  | .alias _ => 1
  | .scalar _ _ _ _ => 1
  | .sequence _ items => 2 + itemEvents items
  | .mapping _ pairs => 2 + pairEvents pairs

/-- The events of some items. -/
def itemEvents : List Written → Nat
  | [] => 0
  | item :: items => item.events + itemEvents items

/-- The events of some pairs. -/
def pairEvents : List (Written × Written) → Nat
  | [] => 0
  | (key, value) :: pairs => key.events + value.events + pairEvents pairs

end

/-- What aliases stand for: nodes by slot, the latest first. -/
abbrev Slots := List (Nat × Written)

/-- The slots with a node put where its anchor says. -/
def noteSlot (slot : Option Nat) (node : Written) (slots : Slots) : Slots :=
  match slot with
  | some n => (n, node) :: slots
  | none => slots

mutual

/-- The slots with those of a node, which come in the order in which the nodes
begin. -/
def noteSlots (node : Written) (slots : Slots) : Slots :=
  match node with
  | .alias _ => slots
  | .scalar slot _ _ _ => noteSlot slot node slots
  | .sequence slot items => noteItemSlots items (noteSlot slot node slots)
  | .mapping slot pairs => notePairSlots pairs (noteSlot slot node slots)

/-- The slots with those of some items. -/
def noteItemSlots : List Written → Slots → Slots
  | [], slots => slots
  | item :: items, slots => noteItemSlots items (item.noteSlots slots)

/-- The slots with those of some pairs. -/
def notePairSlots : List (Written × Written) → Slots → Slots
  | [], slots => slots
  | (key, value) :: pairs, slots => notePairSlots pairs (value.noteSlots (key.noteSlots slots))

end

/-- Following aliases takes up room, and fails without any. -/
abbrev Follow := StateT Nat Option

mutual

/-- A node with its aliases followed. -/
def resolveWith (follow : Nat → Follow Node) : Written → Follow Node
  | .alias slot => follow slot
  | .scalar _ style tag text => return .scalar style tag text
  | .sequence _ items => .sequence <$> resolveItems follow items
  | .mapping _ pairs => .mapping <$> resolvePairs follow pairs

/-- Items with their aliases followed. -/
def resolveItems (follow : Nat → Follow Node) : List Written → Follow (List Node)
  | [] => return []
  | item :: items => return (← resolveWith follow item) :: (← resolveItems follow items)

/-- Pairs with their aliases followed. -/
def resolvePairs (follow : Nat → Follow Node) :
    List (Written × Written) → Follow (List (Node × Node))
  | [] => return []
  | (key, value) :: pairs => do
    let pair := (← resolveWith follow key, ← resolveWith follow value)
    return pair :: (← resolvePairs follow pairs)

end

/-- The node of a slot with its aliases followed in turn. Each alias takes up some of
the room, and only so many may lie inside each other. -/
def follow (slots : Slots) : (depth : Nat) → (slot : Nat) → Follow Node
  | 0, _ => failure
  | depth + 1, slot => do
    match ← get with
    | 0 => failure
    | room + 1 =>
      set room
      resolveWith (follow slots depth) (← slots.lookup slot)

/-- How many aliases may lie inside each other. -/
def depthLimit : Nat := 128

/-- How many aliases may be followed for each event of a document. -/
def aliasesPerEvent : Nat := 100

/-- The tree that a document stands for. -/
def resolve (root : Written) : Option Node :=
  (resolveWith (follow (root.noteSlots []) depthLimit) root).run' (aliasesPerEvent * root.events)

end Written

/-- The only document of a text. -/
def Node.ofText? (s : String) : Option Node := do (← Written.ofText? s).resolve

end DeviceRpc.Yaml
