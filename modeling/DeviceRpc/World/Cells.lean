import DeviceRpc.Bench.Errand

/-!
# Cells

Where tasks share clients. A cell has a lock, which passes from its holder to the
tasks that wait for it in the order they came, and counts the reconnects of its
client, those that fail included. A cell that nobody can reach any more is retired:
its client goes as soon as nobody is left in the line.
-/

namespace DeviceRpc

/-- A task by number. -/
abbrev TaskId := Nat

/-- What a cell holds. -/
inductive Shared where
  | pdu (c : PduClient)
  | rpc (c : RpcClient)
  | rehearsal (r : Rehearsal)

/-- A shared client with its lock. -/
structure Cell where
  content : Shared
  /-- Who has the lock, and who waits for it, in order. -/
  line : List TaskId := []
  reconnects : UInt64 := 0
  retired : Bool := false

namespace Cell

/-- A task asks for the lock; whether it has it now. -/
def acquire (t : TaskId) (c : Cell) : Cell × Bool :=
  let line := if t ∈ c.line then c.line else c.line ++ [t]
  ({ c with line }, line.head? = some t)

/-- A task gives the lock back, or its place in the line. -/
def release (t : TaskId) (c : Cell) : Cell := { c with line := c.line.filter (· ≠ t) }

/-- Whether nobody uses the client or ever will. -/
def isUnused (c : Cell) : Bool := c.retired && c.line.isEmpty

/-- The connection of a shared client, if it has one. -/
def handle? (c : Cell) : Option Handle :=
  match c.content with
  | .pdu c => c.rpc.map (·.channel.handle)
  | .rpc c => some c.channel.handle
  | .rehearsal _ => none

/-- The cell with another envelope of its client. -/
def withEnvelope (p : Packet) (c : Cell) : Cell :=
  match c.content with
  | .pdu client =>
    { c with content := .pdu { client with rpc := client.rpc.map ({ · with packet := p }) } }
  | .rpc client => { c with content := .rpc { client with packet := p } }
  | .rehearsal _ => c

end Cell

end DeviceRpc
