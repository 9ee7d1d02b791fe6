import DeviceRpc.Device.Command
import DeviceRpc.ErrorCode
import DeviceRpc.Text.Utf8

/-!
# Scripted devices

Two devices for trying out services. A `Script` answers every command with what
it was told to; a `Gauge` has one reading, whatever the channel, and parts whose
health checks it counts.
-/

namespace DeviceRpc

/-- A device that answers as it was told. -/
structure Script where
  turnOn : Except ErrorCode Unit := .ok ()
  turnOff : Except ErrorCode Unit := .ok ()
  voltage : Except ErrorCode Binary64 := .ok .zero
  current : Except ErrorCode Binary64 := .ok .zero
  status : Except ErrorCode Bytes := .ok []
  /-- The channel of every name; without one a name's length in bytes. -/
  channelOf : Except ErrorCode (Option UInt16) := .ok none
  probe : Except ErrorCode Unit := .ok ()

/-- Carries out a command. -/
def Script.perform (s : Script) : (c : DeviceCommand) → Except ErrorCode c.Reply
  | .switch true _ => s.turnOn
  | .switch false _ => s.turnOff
  | .voltage _ => s.voltage
  | .current _ => s.current
  | .status => s.status
  | .channelOf name =>
    (fun channel => channel.getD (UInt16.ofNat (Utf8.encode name).length)) <$> s.channelOf
  | .probe _ => s.probe

/-- A device with one reading and some parts. -/
structure Gauge where
  reading : Binary64 := .zero
  /-- The status of each part's health check, zero for success. -/
  parts : List UInt16 := []
  /-- How many health checks ran. -/
  checks : Nat := 0

/-- Carries out a command. -/
def Gauge.perform (g : Gauge) : (c : DeviceCommand) → Gauge × Except ErrorCode c.Reply
  | .switch _ _ => (g, .ok ())
  | .voltage _ | .current _ => (g, .ok g.reading)
  | .status => (g, .ok [])
  | .channelOf _ => (g, .error .notFound)
  | .probe part =>
    let checked := { g with checks := g.checks + 1 }
    match g.parts[part]?.bind ErrorCode.ofNumber? with
    | some code => (checked, .error code)
    | none => (checked, .ok ())

end DeviceRpc
