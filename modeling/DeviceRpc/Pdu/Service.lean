import DeviceRpc.Device.Driver
import DeviceRpc.Dispatch.Service

/-!
# The service for units

The commands that power-distribution units answer. The channel is a scalar of the
header; readings come back in the carrier, voltage first, and a status as the
payload, cut to the limit in the request unless that is zero. A request for a
channel by name needs the name's place for itself, so it takes the unit's index.
-/

namespace DeviceRpc

instance : Monitored Object where
  inspect := Object.inspect
  monitor := Object.monitor

namespace Pdu

/-- A handler that asks for something and writes the answer into the packet. -/
def answering {α : Type} (query : Object → Packet → Task (Except ErrorCode α))
    (write : α → Packet → Except Failure Packet) : Handler Object := fun object p => do
  match ← query object p with
  | .error code => return (p, .error code)
  | .ok a =>
    match write a p with
    | .ok p => return (p, .ok ())
    | .error e => return (p, .error e.code)

/-- Switches an outlet. -/
def switch (on : Bool) : Handler Object :=
  answering (fun object p => object.driver.perform (.switch on p.channel)) fun _ p => .ok p

/-- Answers with the voltage of an outlet. -/
def readVoltage : Handler Object :=
  answering (fun object p => object.driver.perform (.voltage p.channel))
    fun v p => .ok (p.setF64 .first v)

/-- Answers with the current of an outlet. -/
def readCurrent : Handler Object :=
  answering (fun object p => object.driver.perform (.current p.channel))
    fun a p => .ok (p.setF64 .first a)

/-- Answers with the voltage and the current of an outlet. -/
def readVoltageCurrent : Handler Object :=
  answering (fun object p => object.driver.voltageCurrent p.channel)
    fun (v, a) p => .ok ((p.setF64 .first v).setF64 .second a)

/-- A status cut to a limit, zero for none. -/
def cut (limit : UInt32) (bs : Bytes) : Bytes := if limit = 0 then bs else bs.take limit.toNat

/-- Answers with the outlets, as many as the request wants. -/
def readStatus : Handler Object :=
  answering (fun object _ => object.driver.perform .status)
    fun bs p => p.setPayload (cut p.limit bs)

/-- Answers with the channel of the outlet that the request names. -/
def findChannel : Handler Object :=
  answering
    (fun object p => do
      match p.name with
      | .error e => return .error e.code
      | .ok name => object.driver.perform (.channelOf name))
    fun channel p => .ok { p with channel }.clearPayload

/-- The commands. -/
def table : CommandTable Object :=
  (CommandTable.base : CommandTable Object)
    |>.on turnOn (switch true)
    |>.on turnOff (switch false)
    |>.on getVoltage readVoltage
    |>.on getCurrent readCurrent
    |>.on getVoltageCurrent readVoltageCurrent
    |>.on status readStatus
    |>.on getChannelByName findChannel
    |>.set getIndexByName .lookup

/-- The service. -/
def service : Service Object where
  name := "pdu"
  protocol := Protocol.pdu
  table

end Pdu

end DeviceRpc
