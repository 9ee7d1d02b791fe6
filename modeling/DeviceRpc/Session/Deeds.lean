import DeviceRpc.Bench.Exposition
import DeviceRpc.Session.Basic
import DeviceRpc.World.Nodes

/-!
# Deeds

What is done at once: looking at the objects of a node and changing them, asking a
node for a page, starting and stopping its server, putting files where sockets
would go, and giving names to clients. A task that uses a client goes on with it
when its name is given to another or is given up.
-/

namespace DeviceRpc.Session

/-- The object that a session without nodes is about. -/
def firstObject : Object := { driver := .device 0, monitor := 0 }

/-- The gauge that an object stands for. -/
def gauge? (w : World) (o : Object) : Option Gauge :=
  match o.driver with
  | .device id =>
    match w.plant.devices[id]? with
    | some (.gauge g) => some g
    | _ => none
  | .relay _ => none

/-- How many health checks of an object ran. -/
def checks (w : World) (o : Object) : Nat := (gauge? w o).elim 0 (·.checks)

/-- Changes the device of an object. -/
def changeDevice (s : Session) (o : Object) (f : Device → Device) : Session :=
  match o.driver with
  | .device id => s.onWorld fun w => { w with plant := w.plant.change id f }
  | .relay _ => s

/-- Inspects the first object with some health checks. -/
def inspectFirst (s : Session) (parts : List UInt16) : Session × Report :=
  let before := checks s.world firstObject
  let s := s.changeDevice firstObject (.withParts parts)
  let (s, outcome) := s.runErrand (.inspect firstObject) 0
  match outcome with
  | some (.status r) =>
    (s, .inspected r (checks s.world firstObject - before) (s.world.health firstObject.monitor))
  | _ => (s, .pending)

/-- Registers a device while the node runs. -/
def registerLate (s : Session) (id : NodeId) (node : Node) (name : String) (device : Device) :
    Session × Report :=
  let (world, object) := s.world.addDevice device
  match node.registry.registerLate name object with
  | .error e => (s, .failed e)
  | .ok registry =>
    (s.onWorld fun _ => world.onNode id ({ · with registry }),
      match registry.indexOf name with
      | .ok index => .index index
      | .error e => .failed e)

/-- Binds the endpoint of a node and starts to serve. -/
def serve (s : Session) (id : NodeId) (node : Node) : Session × Report :=
  let server := node.settings.server
  match server.endpoint with
  | .error e => (s, .failed e)
  | .ok endpoint =>
    match s.world.network.listen endpoint with
    | (network, .error e) =>
      (s.onWorld ({ · with network }),
        .failed (.internal ("bind " ++ endpoint.address ++ " failed: " ++ e.message)))
    | (network, .ok listener) =>
      let s := s.onWorld fun w =>
        { w with network }.onNode id ({ · with listener := some listener })
      let (schedule, _) := s.schedule.start (.serving id listener server.options)
      ({ s with schedule }, .listening endpoint)

/-- Tells the server of a node to stop. -/
def stop (s : Session) (node : Node) : Session × Report :=
  match node.listener with
  | none => (s, .nothing)
  | some listener =>
    (s.onWorld fun w =>
      { w with network := w.network.onListener listener ({ · with stopping := true }) },
      .stopped)

/-- The world without the client that a name had. -/
def retireNamed (clients : List (String × CellId)) (id : String) (w : World) : World :=
  match clients.lookup id with
  | some cell => w.retire cell
  | none => w

/-- Gives a name to a client that connects. -/
def connect (s : Session) (id : String) (endpoint : Endpoint) (options : LinkOptions) :
    Session × Report :=
  match s.world.network.dial endpoint with
  | (network, .error e) =>
    (s.onWorld ({ · with network }), .outcome (.rpc (.failed (.link e)) none))
  | (network, .ok handle) =>
    let (world, cell) := { s.world with network }.addRpcClient
      { endpoint, options, channel := { handle, options } }
    ({ s with clients := (id, cell) :: s.clients.filter (·.1 ≠ id) }.onWorld fun _ =>
        retireNamed s.clients id world,
      .outcome (.rpc .done none))

/-- Gives a client up. -/
def drop (s : Session) (id : String) : Session × Report :=
  match s.clients.lookup id with
  | none => (s, .outcome (.noClient id))
  | some cell =>
    ({ s with clients := s.clients.filter (·.1 ≠ id) }.onWorld (·.retire cell),
      .outcome (.rpc .done none))

/-- Gives a name to a client of a unit. -/
def newPdu (s : Session) (id : String) (client : PduClient) : Session × Report :=
  let (world, cell) := (retireNamed s.units id s.world).addPduClient client
  ({ s with units := (id, cell) :: s.units.filter (·.1 ≠ id) }.onWorld fun _ => world, .done)

/-- Does something to a node and its number. -/
def onNode (s : Session) (name : String) (f : NodeId → Node → Session × Report) :
    Session × Report :=
  match s.node? name with
  | some (id, node) => f id node
  | none => (s, .nothing)

/-- Does something to an object of a node. -/
def onObject (s : Session) (node : String) (index : UInt16)
    (f : String → Object → Session × Report) : Session × Report :=
  match s.object? node index with
  | some (name, object) => f name object
  | none => (s, .nothing)

/-- Does a deed. -/
def perform (s : Session) : Deed → Session × Report
  | .health => (s, .health (s.world.health firstObject.monitor))
  | .setHealth healthy =>
    (s.onWorld fun w => { w with plant := w.plant.setHealth firstObject.monitor healthy },
      .health healthy)
  | .inspect parts => s.inspectFirst parts
  | .objects node => s.onNode node fun _ n => (s, .objects (n.objects s.world.health))
  | .lookup node name => s.onNode node fun _ n =>
    (s, match n.registry.indexOf name with
      | .ok index => .index index
      | .error e => .failed e)
  | .late node name device => s.onNode node fun id n => s.registerLate id n name device
  | .setFault node index fault => s.onObject node index fun _ o =>
    (s.changeDevice o (.withFault fault), .done)
  | .setScript node index script => s.onObject node index fun _ o =>
    (s.changeDevice o (.withScript script), .done)
  | .setParts node index parts => s.onObject node index fun _ o =>
    (s.changeDevice o (.withParts parts), .checks (checks s.world o))
  | .outlets node index => s.onObject node index fun name o =>
    let reconnects := (s.world.reconnects o.driver).toNat
    match s.runErrand (.outlets o) patience with
    | (s, some (.outlets r)) => (s, .outlets name reconnects r)
    | (s, _) => (s, .pending)
  | .ready node => s.onNode node fun _ n => (s, .yes (n.isReady s.world.health))
  | .extra node => s.onNode node fun _ n =>
    (s, .numbers ((n.extra s.world.health s.world.reconnects).map fun (name, n) =>
      (name, n.toNat)))
  | .drain node => s.onNode node fun id _ =>
    (s.onWorld fun w => w.onNode id fun n => { n with metrics.draining := true }, .done)
  | .page node method path => s.onNode node fun _ n =>
    (s, .response (n.respond Exposition.order s.world.health s.world.reconnects method path))
  | .serve node => s.onNode node s.serve
  | .stop node => s.onNode node fun _ n => s.stop n
  | .put path kind =>
    (s.onWorld fun w =>
      { w with network.files := w.network.files.put path kind },
      .done)
  | .exists path => (s, .yes (s.world.network.files.find path).isOk)
  | .connect id endpoint options => s.connect id endpoint options
  | .drop id => s.drop id
  | .newPdu id client => s.newPdu id client
  | .peer address => match s.peers.lookup address with
    | some peer => (s, .traffic (s.world.peers.getD peer []))
    | none => (s, .nothing)

end DeviceRpc.Session
