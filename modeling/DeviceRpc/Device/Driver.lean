import DeviceRpc.Call.Shared
import DeviceRpc.Device.Health
import DeviceRpc.Pdu.Exchange

/-!
# Drivers

How an object carries out a command: a device of the node does it at once; a
relay passes it on to the unit it stands for, on the one connection that all
requests to the relay share, and forwards the code of whatever went wrong.
-/

namespace DeviceRpc

/-- The client in a cell as a shared transport. -/
def PduClient.transport (cell : CellId) : Transport PduClient where
  cell
  load := ask (.pduClient cell)
  keep c := ask (.keepPduClient cell c)
  reconnect := PduClient.reconnect

/-- A command on the unit of a client. -/
def PduClient.perform : (c : DeviceCommand) → Calling PduClient c.Reply
  | .switch on channel => switch on channel
  | .voltage channel => voltage channel
  | .current channel => current channel
  | .status => status 0
  | .channelOf name => channelByName name
  | .probe _ => inspect

namespace Driver

/-- Passes an operation on to the unit that a relay stands for. -/
def forward {α : Type} (cell : CellId) (op : Calling PduClient α) : Task (Except ErrorCode α) := do
  return (← (PduClient.transport cell).run op).mapError CallFailure.code

/-- Carries out a command. -/
def perform (d : Driver) (c : DeviceCommand) : Task (Except ErrorCode c.Reply) :=
  match d with
  | .device id => ask (.command id c)
  | .relay cell => forward cell (PduClient.perform c)

/-- Voltage and current: of a device one after the other, of a relay in one
request. -/
def voltageCurrent (d : Driver) (channel : UInt16) :
    Task (Except ErrorCode (Binary64 × Binary64)) := do
  match d with
  | .device id =>
    match ← ask (.command id (.voltage channel)) with
    | .error code => return .error code
    | .ok v => return (← ask (.command id (.current channel))).map (v, ·)
  | .relay cell => forward cell (PduClient.voltageCurrent channel)

/-- The health checks of a driver, one for each part; a relay has one part. -/
def probes (d : Driver) : Task (List Health.Probe) := do
  match d with
  | .device id =>
    let n ← ask (.parts id)
    return (List.range n).map fun part => d.perform (.probe part)
  | .relay _ => return [d.perform (.probe 0)]

end Driver

namespace Object

/-- Inspects an object. -/
def inspect (o : Object) : Task (Except ErrorCode Unit) := do
  Health.inspect o.monitor (← o.driver.probes)

end Object

end DeviceRpc
