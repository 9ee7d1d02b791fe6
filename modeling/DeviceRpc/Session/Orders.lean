import DeviceRpc.Session.Basic
import DeviceRpc.World.Nodes

/-!
# Orders

What an order sends a task out for. Names become numbers here, and a request becomes
a packet; an order that makes no sense, or a request that cannot be put together,
is answered without a task.
-/

namespace DeviceRpc.Session

/-- The packet of a request, or why there is none. -/
def packet (s : Session) : Request → Except Failure Packet
  | .frame bs => Packet.ofFrame bs
  | .filled capacity f => filled f (.withCapacity capacity)
  | .again f => filled f s.world.lastReply
where
  filled (f : Filling) (p : Packet) : Except Failure Packet :=
    match f.apply p with
    | (p, none) => .ok p
    | (_, some e) => .error e

/-- The errand of an order, or what to report without one. -/
def errand (s : Session) : Order → Except Report Errand
  | .dispatch node request =>
    match s.nodes.lookup node, s.packet request with
    | none, _ => .error .nothing
    | some _, .error e => .error (.failed e)
    | some id, .ok p => .ok (.dispatch id p)
  | .inspectAll node =>
    match s.nodes.lookup node with
    | none => .error .nothing
    | some id => .ok (.inspectAll id)
  | .wait ms => .ok (.wait 0 (ms.map (· * nanosPerMilli)))
  | .waitSeconds seconds => .ok (.waitSeconds 0 seconds)
  | .rpc id what =>
    match s.clients.lookup id with
    | none => .error (.outcome (.noClient id))
    | some cell => .ok (.rpc cell what)
  | .pdu id what =>
    match s.units.lookup id with
    | none => .error (.outcome (.noClient id))
    | some cell => .ok (.pdu cell what)
  | .raw what => .ok (.raw what)
  | .commandLine arguments => .ok (.commandLine arguments)
  | .sleep ms => .ok (.sleep ms)

end DeviceRpc.Session
