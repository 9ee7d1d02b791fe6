import DeviceRpc.Call.Exchange
import DeviceRpc.Pdu.CommandLine

/-!
# Requests to one unit

A request connects where there is no connection, looks the unit's index up where
it is not known, and sends a command to that index. After a failure on the link
both are forgotten, so the next request starts over; after a failure that the
server reported both stay.

A client that is shared is put down after connecting, after a lookup, and before it
connects again, which is where a task that is given up leaves it.
-/

namespace DeviceRpc

namespace Pdu

/-! ## Command numbers -/

def turnOn : UInt16 := 1
def turnOff : UInt16 := 2
def getVoltage : UInt16 := 3
def getCurrent : UInt16 := 4
def getVoltageCurrent : UInt16 := 5
def status : UInt16 := 6
def getIndexByName : UInt16 := 23
def getChannelByName : UInt16 := 24

end Pdu

namespace PduClient

/-- Puts the client down where it is kept. -/
def keep : Calling PduClient Unit := do
  let c ← get
  match c.home with
  | some cell => ask (.keepPduClient cell c)
  | none => return ()

/-- The connection, a new one if there is none. -/
def connected : Calling PduClient RpcClient := do
  let c ← get
  match c.rpc with
  | some rpc => return rpc
  | none =>
    match ← RpcClient.connect c.endpoint c.options c.home with
    | .ok rpc =>
      set { c with rpc := some rpc }
      keep
      return rpc
    | .error e => throw e

/-- Works on the connection. -/
def onConnection {α : Type} (op : Calling RpcClient α) : Calling PduClient α := do
  let rpc ← connected
  let (result, rpc) ← op.run.run rpc
  modify ({ · with rpc := some rpc })
  match result with
  | .ok a => return a
  | .error e => throw e

/-- The unit's index, looked up if it is not known. -/
def resolve : Calling PduClient UInt16 := do
  let c ← get
  if c.index = 0 then
    let index ← onConnection (RpcClient.indexByName Protocol.pdu Pdu.getIndexByName c.name)
    modify ({ · with index })
    keep
    return index
  else return c.index

/-- Forgets the connection and the index. -/
def disconnect : StateT PduClient Task Unit := do
  let c ← get
  if let some rpc := c.rpc then rpc.channel.close
  set c.forget

/-- A command to the unit, with its channel and what else it carries; the reply. -/
def exchange (protocol command channel : UInt16) (change : Packet → Except Failure Packet) :
    Calling PduClient Packet := do
  let index ← resolve
  onConnection do
    RpcClient.prepare protocol command index
    RpcClient.modifyPacket ({ · with channel })
    RpcClient.fill change
    discard RpcClient.call
  return (← connected).packet

/-- A request: an exchange, and forgetting after a failure on the link. -/
def request (protocol command channel : UInt16)
    (change : Packet → Except Failure Packet := .ok) : Calling PduClient Packet :=
  Calling.onFailure (exchange protocol command channel change) fun
    | .link _ => disconnect
    | .remote _ => return ()

/-- A command of the unit's own protocol for one channel. -/
def onChannel (command channel : UInt16) : Calling PduClient Packet :=
  request Protocol.pdu command channel

/-- Power for the outlet of a channel. -/
def switch (on : Bool) (channel : UInt16) : Calling PduClient Unit :=
  discard (onChannel (if on then Pdu.turnOn else Pdu.turnOff) channel)

/-- The voltage of an outlet. -/
def voltage (channel : UInt16) : Calling PduClient Binary64 := do
  return (← onChannel Pdu.getVoltage channel).f64 .first

/-- The current of an outlet. -/
def current (channel : UInt16) : Calling PduClient Binary64 := do
  return (← onChannel Pdu.getCurrent channel).f64 .first

/-- Voltage and current in one request. -/
def voltageCurrent (channel : UInt16) : Calling PduClient (Binary64 × Binary64) := do
  let p ← onChannel Pdu.getVoltageCurrent channel
  return (p.f64 .first, p.f64 .second)

/-- One byte for each outlet, at most `limit` unless that is zero. -/
def status (limit : UInt32) : Calling PduClient Bytes := do
  return (← request Protocol.pdu Pdu.status 0 fun p => .ok (p.setLimit limit)).payload

/-- The channel of the outlet with a name. -/
def channelByName (name : String) : Calling PduClient UInt16 := do
  return (← request Protocol.pdu Pdu.getChannelByName 0 (·.setName name)).channel

/-- Asks the server to inspect the unit. -/
def inspect : Calling PduClient Unit :=
  discard (request Protocol.system Protocol.inspect 0)

/-- Waits on the server until the unit is healthy, for so many seconds. -/
def register (seconds : Binary64) : Calling PduClient Unit :=
  discard (request Protocol.system Protocol.register 0 fun p => .ok (p.setF64 .first seconds))

/-- Gives the client a new connection and forgets the index. -/
def reconnect : Calling PduClient Unit := do
  disconnect
  keep
  discard connected

end PduClient

end DeviceRpc
