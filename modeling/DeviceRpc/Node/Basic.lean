import DeviceRpc.Config.Settings
import DeviceRpc.Program.Act

/-!
# Nodes

A node is its settings, the objects it offers, and its counts. What it shows of
itself depends on these and on the health of its objects: whether it is ready, a
listing of the objects, and numbers that go with the metrics.
-/

namespace DeviceRpc

/-- A node. -/
structure Node where
  settings : Settings := {}
  kind : ServiceKind := .pdu
  registry : Registry Object := .empty
  metrics : NodeMetrics := {}
  /-- The listener of its server, while it serves. -/
  listener : Option ListenerId := none

instance : Inhabited Node := ⟨{}⟩

namespace Node

/-- What the node offers. -/
def offer (n : Node) : Offer where
  kind := n.kind
  registry := n.registry
  draining := n.metrics.draining

/-- The objects in the order of their indexes. -/
def objects (n : Node) (health : MonitorId → Bool) : List ObjectView :=
  n.registry.listing.map fun (index, name, object) =>
    { name, index, healthy := health object.monitor }

/-- Whether the node takes requests and the last inspection of every object
succeeded. -/
def isReady (n : Node) (health : MonitorId → Bool) : Bool := n.offer.isReady (n.objects health)

/-- The numbers that go with the metrics: reconnects of the relays, healthy objects,
and all objects. -/
def extra (n : Node) (health : MonitorId → Bool) (reconnects : Driver → UInt64) :
    List (String × UInt64) :=
  let drivers := n.registry.entries.map fun (_, object) => object.driver
  [("obsrpc_upstream_reconnects_total", (drivers.map reconnects).foldl (· + ·) 0),
    ("obsrpc_objects_healthy", .ofNat ((n.objects health).countP (·.healthy))),
    ("obsrpc_objects_total", .ofNat n.registry.size)]

end Node

end DeviceRpc
