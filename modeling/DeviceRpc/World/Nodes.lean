import DeviceRpc.World.Basic

/-!
# Setting nodes up

What the settings of a node become in a world: a strip of outlets for a local
unit, a shared client for a relay, and a monitor for either. A relay's client
connects when it is first used, so setting a node up reaches no other node; it
fails where an address cannot be read or a name is taken.
-/

namespace DeviceRpc.World

/-- Adds a device with a monitor. -/
def addDevice (device : Device) (w : World) : World × Object :=
  let (plant, id) := w.plant.addDevice device
  let (plant, monitor) := plant.addMonitor
  ({ w with plant }, { driver := .device id, monitor })

/-- Adds a shared client. -/
def addCell (content : CellId → Shared) (w : World) : World × CellId :=
  let id := w.cells.length
  ({ w with cells := w.cells ++ [{ content := content id }] }, id)

/-- Adds a client of a unit, kept in a cell of its own. -/
def addPduClient (client : PduClient) (w : World) : World × CellId :=
  w.addCell fun id => .pdu { client with home := some id }

/-- Adds a client, kept in a cell of its own. -/
def addRpcClient (client : RpcClient) (w : World) : World × CellId :=
  w.addCell fun id => .rpc { client with home := some id }

/-- Adds a relay with a monitor. -/
def addRelay (client : PduClient) (w : World) : World × Object :=
  let (w, cell) := w.addPduClient client
  let (plant, monitor) := w.plant.addMonitor
  ({ w with plant }, { driver := .relay cell, monitor })

/-- Adds what a unit of the settings stands for. -/
def addUnit (unit : PduSettings) (w : World) : Except Failure (World × Object) :=
  match unit.relay with
  | none => .ok (w.addDevice (.strip (.ofNames unit.outlets)))
  | some relay =>
    (fun endpoint => w.addRelay { endpoint, options := relay.options, name := relay.name })
      <$> relay.endpoint

/-- Adds what the units of the settings stand for, by name. -/
def addUnits : List PduSettings → World → Except Failure (World × List (String × Object))
  | [], w => .ok (w, [])
  | unit :: units, w => do
    let (w, object) ← w.addUnit unit
    let (w, objects) ← addUnits units w
    return (w, (unit.name, object) :: objects)

/-- Adds a node with some objects. -/
def addNode (settings : Settings) (kind : ServiceKind) (objects : List (String × Object))
    (w : World) : Except Failure (World × NodeId) :=
  (fun registry => ({ w with nodes := w.nodes ++ [{ settings, kind, registry }] }, w.nodes.length))
    <$> Registry.build objects

/-- Adds a node for its settings. -/
def boot (settings : Settings) (w : World) : Except Failure (World × NodeId) := do
  let (w, objects) ← w.addUnits settings.pdus
  w.addNode settings .pdu objects

end DeviceRpc.World
