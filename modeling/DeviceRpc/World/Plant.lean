import DeviceRpc.Device.Object
import DeviceRpc.Device.Scripted
import DeviceRpc.Device.Strip

/-!
# The plant

The devices of every node and the monitors of their objects. Devices carry out
commands at once; a monitor shows what the last inspection recorded, and an error
before the first.
-/

namespace DeviceRpc

/-- A device. -/
inductive Device where
  | strip (s : Strip)
  | script (s : Script)
  | gauge (g : Gauge)

namespace Device

/-- How many parts have a health check. -/
def parts : Device → Nat
  | gauge g => g.parts.length
  | _ => 1

/-- A strip with another fault. -/
def withFault (fault : Option ErrorCode) : Device → Device
  | strip s => strip { s with fault }
  | d => d

/-- A scripted device with another script. -/
def withScript (s : Script) : Device → Device
  | script _ => script s
  | d => d

/-- A gauge with other health checks; the ones that ran still count. -/
def withParts (parts : List UInt16) : Device → Device
  | gauge g => gauge { g with parts }
  | d => d

/-- Carries out a command. -/
def perform (d : Device) (c : DeviceCommand) : Device × Except ErrorCode c.Reply :=
  match d with
  | strip s => let (s, r) := s.perform c; (strip s, r)
  | script s => (script s, s.perform c)
  | gauge g => let (g, r) := g.perform c; (gauge g, r)

end Device

/-- Devices and monitors. -/
structure Plant where
  devices : List Device := []
  /-- Whether the last inspection of each object succeeded. -/
  health : List Bool := []

namespace Plant

/-- Adds a device. -/
def addDevice (d : Device) (p : Plant) : Plant × DeviceId :=
  ({ p with devices := p.devices ++ [d] }, p.devices.length)

/-- Adds a monitor. -/
def addMonitor (p : Plant) : Plant × MonitorId :=
  ({ p with health := p.health ++ [false] }, p.health.length)

/-- Whether the last inspection recorded by a monitor succeeded. -/
def isHealthy (p : Plant) (m : MonitorId) : Bool := p.health.getD m false

/-- Records the outcome of an inspection. -/
def setHealth (m : MonitorId) (healthy : Bool) (p : Plant) : Plant :=
  { p with health := p.health.set m healthy }

/-- How many parts of a device have a health check. -/
def parts (p : Plant) (d : DeviceId) : Nat := p.devices[d]?.elim 0 Device.parts

/-- Carries out a command on a device. -/
def perform (p : Plant) (d : DeviceId) (c : DeviceCommand) : Plant × Except ErrorCode c.Reply :=
  match p.devices[d]? with
  | none => (p, .error .deviceNotLoaded)
  | some device =>
    let (device, r) := device.perform c
    ({ p with devices := p.devices.set d device }, r)

/-- Changes a device. -/
def change (d : DeviceId) (f : Device → Device) (p : Plant) : Plant :=
  { p with devices := p.devices.modify d f }

end Plant

end DeviceRpc
