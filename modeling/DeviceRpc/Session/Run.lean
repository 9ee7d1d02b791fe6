import DeviceRpc.Session.Deeds
import DeviceRpc.Session.Orders

/-!
# Running sessions

A session is set up with devices, nodes and peers, and then does one step after the
other. A step is answered when it is over or when patience ends.
-/

namespace DeviceRpc.Session

/-! ## Beginnings -/

/-- A session with a gauge that no node offers. -/
def ofGauge : Session := ({} : Session).onWorld fun w => (w.addDevice (.gauge {})).1

/-- Adds devices by name. -/
def addDevices : List (String × Device) → World → World × List (String × Object)
  | [], w => (w, [])
  | (name, device) :: rest, w =>
    let (w, object) := w.addDevice device
    let (w, objects) := addDevices rest w
    (w, (name, object) :: objects)

/-- A session with one node that offers some devices. -/
def ofDevices (name : String) (kind : ServiceKind) (devices : List (String × Device)) :
    Except Failure Session := do
  let (w, objects) := addDevices devices {}
  let (world, id) ← w.addNode {} kind objects
  return { schedule := { world }, nodes := [(name, id)] }

/-- Adds a node under a name, unless there is something wrong with its settings. -/
def addNode (name : String) (settings : Settings) (s : Session) : Except Failure Session := do
  let (world, id) ← s.world.boot settings
  return { s with nodes := s.nodes ++ [(name, id)] }.onWorld fun _ => world

/-- Adds a peer that follows a script on each connection. -/
def addPeer (address : String) (endpoint : Endpoint) (scripts : List (List PeerLine))
    (s : Session) : Session :=
  match s.world.network.listen endpoint with
  | (_, .error _) => s
  | (network, .ok listener) =>
    let who := s.world.peers.length
    let s := { s with peers := s.peers ++ [(address, who)] }.onWorld fun w =>
      { w with network, peers := w.peers ++ [[]] }
    let (schedule, _) := s.schedule.start (.peer who listener 0 scripts)
    ({ s with schedule } : Session).settle.getD s

/-! ## Steps -/

/-- Does a piece of work, up to its end or to the end of patience. -/
def run (s : Session) : Work → Session × Report
  | .deed d => s.perform d
  | .order o =>
    match s.errand o with
    | .error r => (s, r)
    | .ok e =>
      match s.runErrand e patience with
      | (s, some o) => (s, .outcome o)
      | (s, none) => (s, .pending)

/-- Starts a piece of work. -/
def spawn (s : Session) (id : String) : Work → Session
  | .deed d =>
    let (s, r) := s.perform d
    { s with started := (id, .ended r) :: s.started.filter (·.1 ≠ id) }
  | .order o =>
    let (s, task) : Session × Started := match s.errand o with
      | .error r => (s, .ended r)
      | .ok e => let (s, t) := s.start e; (s, .running t)
    { s with started := (id, task) :: s.started.filter (·.1 ≠ id) }

/-- Whether a task that was started by name is over. -/
def isOver (s : Session) (id : String) : Bool :=
  match s.started.lookup id with
  | some (.ended _) => true
  | _ => false

/-- Waits for a task that was started by name. -/
def join (s : Session) (id : String) : Session × Report :=
  let forget (s : Session) : Session := { s with started := s.started.filter (·.1 ≠ id) }
  match s.started.lookup id with
  | none => (s, .nothing)
  | some (.ended r) => (forget s, r)
  | some (.running t) =>
    match s.await t (s.world.now + patience) with
    | some (s, some o) => (forget s, .outcome o)
    | some (s, none) => (s, .pending)
    | none => (s, .pending)

/-- The session after what was done, once every task waits, and a report of it. -/
def conclude (s done : Session) (report : Session → Report) : Session × Report :=
  match done.settle with
  | some done => (done, report done)
  | none => (s, .pending)

/-- Does a step. -/
def step (s : Session) : Step → Session × Report
  | .run w => let (done, r) := s.run w; s.conclude done fun _ => r
  | .spawn id w => s.conclude (s.spawn id w) fun s => .finished (s.isOver id)
  | .poll id => s.conclude s fun s => .finished (s.isOver id)
  | .join id => let (done, r) := s.join id; s.conclude done fun _ => r
  | .advance ms => let (s, _) := s.runErrand (.sleep ms) ms; (s, .nothing)

end DeviceRpc.Session
