import DeviceRpc.Device.Command
import DeviceRpc.Pdu.Client
import DeviceRpc.Registry

/-!
# Objects

What a service registers under a name: something that carries out device
commands, and a monitor that remembers whether its last inspection succeeded. A
driver is a device of this node, or a relay that passes every command on to a
unit of another node.
-/

namespace DeviceRpc

/-- A device by number. -/
abbrev DeviceId := Nat

/-- A health monitor by number. -/
abbrev MonitorId := Nat

/-- A node by number. -/
abbrev NodeId := Nat

/-- What carries out the commands. -/
inductive Driver where
  | device (id : DeviceId)
  /-- The client in this cell, shared by every request to the object. -/
  | relay (cell : CellId)
  deriving DecidableEq, Repr

/-- A registered object. -/
structure Object where
  driver : Driver
  monitor : MonitorId
  deriving DecidableEq, Repr

/-- An object as a listing shows it. -/
structure ObjectView where
  name : String
  index : UInt16
  healthy : Bool
  deriving DecidableEq, Repr

end DeviceRpc
