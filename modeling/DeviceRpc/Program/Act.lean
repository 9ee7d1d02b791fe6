import DeviceRpc.Bench.Errand
import DeviceRpc.Bench.Rig
import DeviceRpc.Metrics.Node
import DeviceRpc.Program.Basic

/-!
# Acts

What a task can ask of its world, by an `Act`, and the type of what it gets back.
Some acts may have to wait: for a time, for bytes or a connection, for health, for
a lock. Everything else is answered at once. Tasks start other tasks by their
`Job`, which is data, so a world can say what is going on in it.
-/

namespace DeviceRpc

/-- What a task is busy with. -/
inductive Job where
  /-- Accept connections for a node until told to stop. -/
  | serving (node : NodeId) (listener : ListenerId) (options : LinkOptions)
  /-- A connection of a node that was just accepted. -/
  | opening (node : NodeId) (channel : Channel)
  /-- A connection of a node between two requests, with its envelope. -/
  | connection (node : NodeId) (channel : Channel) (packet : Packet)
  /-- A peer that accepts as many connections as it has scripts. -/
  | peer (peer : Nat) (listener : ListenerId) (connection : Nat) (scripts : List (List PeerLine))
  /-- A peer's script on one connection, with the last frame it read. -/
  | acting (peer connection : Nat) (handle : Handle) (script : List PeerLine) (last : Packet)
  /-- Collect what a connection still brings. -/
  | collecting (handle : Handle) (got : Bytes)
  | errand (e : Errand)

/-- What a node offers at a moment: its kind of service and its objects, and whether
it is about to go. -/
structure Offer where
  kind : ServiceKind
  registry : Registry Object
  draining : Bool := false

/-- Whether the node takes requests and all of its objects are healthy. -/
def Offer.isReady (o : Offer) (objects : List ObjectView) : Bool :=
  !o.draining && objects.all (·.healthy)

/-- What a task asks of its world. -/
inductive Act where
  -- time
  | now
  | sleepUntil (t : Instant)
  /-- Wait for nothing, for good. -/
  | forever
  -- connections
  | dial (endpoint : Endpoint)
  /-- The next connection of a listener, or the word to stop. Accepting does not fail. -/
  | accept (listener : ListenerId)
  /-- At most `n` bytes, waiting until `limit` for the first. -/
  | receive (handle : Handle) (n : Nat) (limit : Option Instant)
  | send (handle : Handle) (bs : Bytes)
  /-- Send nothing more. -/
  | finish (handle : Handle)
  /-- Neither send nor receive any more. -/
  | hangUp (handle : Handle)
  /-- Accept nothing more; `remove` also takes the file away. -/
  | unlisten (listener : ListenerId) (remove : Bool)
  -- devices and health
  | parts (device : DeviceId)
  | command (device : DeviceId) (c : DeviceCommand)
  | isHealthy (monitor : MonitorId)
  | setHealth (monitor : MonitorId) (healthy : Bool)
  /-- Wait until `limit` for health; whether it came. -/
  | awaitHealthy (monitor : MonitorId) (limit : Option Instant)
  -- shared clients
  | acquire (cell : CellId)
  | release (cell : CellId)
  | countReconnect (cell : CellId)
  | pduClient (cell : CellId)
  | keepPduClient (cell : CellId) (c : PduClient)
  | rpcClient (cell : CellId)
  | keepRpcClient (cell : CellId) (c : RpcClient)
  /-- Put down the envelope of the client in a cell. -/
  | keepEnvelope (cell : CellId) (p : Packet)
  | rehearsal (cell : CellId)
  | keepRehearsal (cell : CellId) (r : Rehearsal)
  -- nodes
  | offer (node : NodeId)
  | record (node : NodeId) (event : NodeMetrics.Event)
  | drain (node : NodeId)
  -- tasks
  | spawn (job : Job)
  /-- Remember a reply as the last one. -/
  | noteReply (p : Packet)
  -- peers
  | noteConnection (peer : Nat)
  | noteFrame (peer connection : Nat) (frame : Bytes)
  | noteEnd (peer connection : Nat)

/-- What an act is answered with. -/
abbrev Act.Reply : Act → Type
  | now => Instant
  | forever => Empty
  | dial _ => Except LinkFailure Handle
  | accept _ => Option Handle
  | receive _ _ _ => Received
  | send _ _ => Except LinkFailure Unit
  | parts _ => Nat
  | command _ c => Except ErrorCode c.Reply
  | isHealthy _ => Bool
  | awaitHealthy _ _ => Bool
  | pduClient _ => PduClient
  | rpcClient _ => RpcClient
  | rehearsal _ => Rehearsal
  | offer _ => Offer
  | _ => Unit

/-- A program of a task. -/
abbrev Task (α : Type) := Prog Act.Reply α

/-- Asks, and gives the answer. -/
def ask (a : Act) : Task a.Reply := Prog.request a

/-- When to stop waiting: a number of milliseconds from now, never without one. -/
def deadline (timeout : Option Nat) : Task (Option Instant) := do
  match timeout with
  | some ms => return some ((← ask .now) + ms)
  | none => return none

end DeviceRpc
