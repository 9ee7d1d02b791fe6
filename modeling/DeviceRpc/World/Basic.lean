import DeviceRpc.Node.Basic
import DeviceRpc.World.Cells
import DeviceRpc.World.Network
import DeviceRpc.World.Plant

/-!
# Worlds

A world is everything that tasks share: a clock, the network, the plant, shared
clients, and nodes. `World.answer` answers an act of a task, or lets the task
wait. Time stands still while anything can be answered; the scheduler moves the
clock.
-/

namespace DeviceRpc

/-- What a peer did on one connection. -/
structure PeerLog where
  /-- The frames it read. -/
  frames : List Bytes := []
  /-- Whether its script ended. -/
  closed : Bool := false

/-- Everything that tasks share. -/
structure World where
  now : Instant := 0
  network : Network := {}
  plant : Plant := {}
  cells : List Cell := []
  nodes : List Node := []
  /-- What every peer did, by connection. -/
  peers : List (List PeerLog) := []
  /-- Which task dialed which connection. -/
  dialed : List (TaskId × Handle) := []
  /-- Jobs that are yet to be started. -/
  spawned : List Job := []
  /-- What the last dispatch came to. -/
  lastReply : Packet := .empty

namespace World

/-- Changes a cell. -/
def onCell (w : World) (c : CellId) (f : Cell → Cell) : World :=
  { w with cells := w.cells.modify c f }

/-- Changes a node. -/
def onNode (w : World) (n : NodeId) (f : Node → Node) : World :=
  { w with nodes := w.nodes.modify n f }

/-- Changes what a peer did on a connection. -/
def onPeer (w : World) (peer connection : Nat) (f : PeerLog → PeerLog) : World :=
  { w with peers := w.peers.modify peer (·.modify connection f) }

/-- Whether the last inspection recorded by a monitor succeeded. -/
def health (w : World) (m : MonitorId) : Bool := w.plant.isHealthy m

/-- How often a driver's client was to get a new connection, whether or not it got one. -/
def reconnects (w : World) : Driver → UInt64
  | .device _ => 0
  | .relay cell => w.cells[cell]?.elim 0 (·.reconnects)

/-- Whether a time has come. -/
def isPast (w : World) (limit : Option Instant) : Bool := limit.any (· ≤ w.now)

/-- The client of a unit in a cell. -/
def pduClient? (w : World) (c : CellId) : Option PduClient :=
  match w.cells[c]?.map Cell.content with
  | some (.pdu client) => some client
  | _ => none

/-- The client in a cell. -/
def rpcClient? (w : World) (c : CellId) : Option RpcClient :=
  match w.cells[c]?.map Cell.content with
  | some (.rpc client) => some client
  | _ => none

/-- The rehearsal in a cell. -/
def rehearsal? (w : World) (c : CellId) : Option Rehearsal :=
  match w.cells[c]?.map Cell.content with
  | some (.rehearsal r) => some r
  | _ => none

/-- The world with something put into a cell. -/
def keep (w : World) (c : CellId) (content : Shared) : World := w.onCell c ({ · with content })

/-- The world with a cell changed, and its client's connection closed if nobody uses
it any more. -/
def settleCell (w : World) (c : CellId) (f : Cell → Cell) : World :=
  match w.cells[c]? with
  | none => w
  | some cell =>
    let cell := f cell
    let w := { w with cells := w.cells.set c cell }
    match cell.handle? with
    | some h => if cell.isUnused then { w with network := w.network.hangUp h } else w
    | none => w

/-- A task leaves the line of a cell. -/
def release (w : World) (t : TaskId) (c : CellId) : World :=
  if w.cells[c]?.any (t ∈ ·.line) then w.settleCell c (·.release t) else w

/-- Nobody can reach a cell any more. -/
def retire (w : World) (c : CellId) : World := w.settleCell c ({ · with retired := true })

/-- Receives on a connection, or waits for bytes until the limit. -/
def receive (w : World) (h : Handle) (n : Nat) (limit : Option Instant) :
    World × Option Received :=
  match w.network.connections[h.connection]? with
  | none => (w, some .ended)
  | some c =>
    let (c, r) := c.receive h.side n
    let w := { w with
      network.connections := w.network.connections.set h.connection c }
    match r with
    | some r => (w, some r)
    | none => (w, if w.isPast limit then some .late else none)

/-- Sends on a connection. -/
def send (w : World) (h : Handle) (bs : Bytes) : World × Except LinkFailure Unit :=
  match w.network.connections[h.connection]? with
  | none => (w, .error .brokenPipe)
  | some c =>
    let (c, r) := c.send h.side bs
    ({ w with network.connections := w.network.connections.set h.connection c }, r)

/-- Answers an act of a task. Without an answer the task waits, and acts again when
something changed. -/
def answer (w : World) (t : TaskId) : (a : Act) → World × Option a.Reply
  | .now => (w, some w.now)
  | .sleepUntil limit => (w, if limit ≤ w.now then some () else none)
  | .forever => (w, none)
  | .dial endpoint =>
    let (network, r) := w.network.dial endpoint
    let dialed := match r with
      | .ok h => (t, h) :: w.dialed
      | .error _ => w.dialed
    ({ w with network, dialed }, some r)
  | .accept listener =>
    let (network, r) := w.network.accept listener
    ({ w with network }, r)
  | .receive h n limit => w.receive h n limit
  | .send h bs => let (w, r) := w.send h bs; (w, some r)
  | .finish h =>
    ({ w with network := w.network.onConnection h.connection (·.finish h.side) }, some ())
  | .hangUp h =>
    ({ w with network := w.network.hangUp h, dialed := w.dialed.filter (·.2 ≠ h) }, some ())
  | .unlisten listener remove =>
    ({ w with network := w.network.unlisten listener remove }, some ())
  | .parts d => (w, some (w.plant.parts d))
  | .command d c => let (plant, r) := w.plant.perform d c; ({ w with plant }, some r)
  | .isHealthy m => (w, some (w.health m))
  | .setHealth m healthy => ({ w with plant := w.plant.setHealth m healthy }, some ())
  | .awaitHealthy m limit =>
    (w, if w.health m then some true else if w.isPast limit then some false else none)
  | .acquire c =>
    match w.cells[c]? with
    | none => (w, none)
    | some cell =>
      let (cell, has) := cell.acquire t
      ({ w with cells := w.cells.set c cell }, if has then some () else none)
  | .release c => (w.release t c, some ())
  | .countReconnect c =>
    (w.onCell c fun cell => { cell with reconnects := cell.reconnects + 1 }, some ())
  | .pduClient c => (w, w.pduClient? c)
  | .keepPduClient c client => (w.keep c (.pdu client), some ())
  | .rpcClient c => (w, w.rpcClient? c)
  | .keepRpcClient c client => (w.keep c (.rpc client), some ())
  | .keepEnvelope c p => (w.onCell c (·.withEnvelope p), some ())
  | .rehearsal c => (w, w.rehearsal? c)
  | .keepRehearsal c r => (w.keep c (.rehearsal r), some ())
  | .offer n => (w, w.nodes[n]?.map Node.offer)
  | .record n event =>
    (w.onNode n fun node => { node with metrics := node.metrics.record node.kind.name event },
      some ())
  | .drain n =>
    (w.onNode n fun node => { node with metrics.draining := true, listener := none }, some ())
  | .spawn job => ({ w with spawned := w.spawned ++ [job] }, some ())
  | .noteReply p => ({ w with lastReply := p }, some ())
  | .noteConnection peer => ({ w with peers := w.peers.modify peer (· ++ [{}]) }, some ())
  | .noteFrame peer connection frame =>
    (w.onPeer peer connection fun log => { log with frames := log.frames ++ [frame] }, some ())
  | .noteEnd peer connection => (w.onPeer peer connection ({ · with closed := true }), some ())

/-- Until when an act waits at most, if it may have to wait at all. -/
def patience : Act → Option Instant
  | .sleepUntil limit => some limit
  | .receive _ _ limit => limit
  | .awaitHealthy _ limit => limit
  | _ => none

/-- The world without a task that was given up: it leaves every line, and the
connections it dialed are closed unless a shared client holds them. -/
def abandon (w : World) (t : TaskId) : World :=
  let w := (List.range w.cells.length).foldl (·.release t ·) w
  let held := w.cells.filterMap Cell.handle?
  let lost := w.dialed.filter fun (task, h) => task = t && !held.contains h
  { w with
    network := lost.foldl (fun n (_, h) => n.hangUp h) w.network
    dialed := w.dialed.filter (·.1 ≠ t) }

end World

end DeviceRpc
