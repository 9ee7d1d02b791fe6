import DeviceRpc.Call.Failure
import DeviceRpc.Link.Endpoint
import DeviceRpc.Link.Handle
import DeviceRpc.Packet.Name
import DeviceRpc.Protocol

/-!
# Clients

A client is a connection to one server and the envelope that every call on it
uses. Preparing a request sets the scalars and drops the payload; what else the
last reply left in the envelope stays there. The bit that announces another
packet doubles as the client's memory that a reply is still under way.
-/

namespace DeviceRpc

/-- What a successful read says about the reply. -/
inductive ReplyPart where
  /-- It was the only or the last packet. -/
  | last
  /-- Another packet follows. -/
  | more
  deriving DecidableEq, Repr

namespace Packet

/-- Whether another packet follows. -/
def hasMore (p : Packet) : Bool := p.option &&& Protocol.morePackets ≠ 0

/-- The packet without the announcement of another. -/
def clearMore (p : Packet) : Packet :=
  { p with option := p.option &&& ~~~Protocol.morePackets }

/-- The envelope reset for a new request. The carrier stays. -/
def prepare (protocol command index : UInt16) (p : Packet) : Packet :=
  { p with protocol, command, index, option := 0, channel := 0, errorCode := 0, length := 0 }

end Packet

/-- A place where several tasks share a client, by number. -/
abbrev CellId := Nat

/-- A connection to one server, and the envelope of its calls. -/
structure RpcClient where
  endpoint : Endpoint
  options : LinkOptions
  channel : Channel
  packet : Packet := .empty
  /-- Where the client is kept between calls, if it is shared. -/
  home : Option CellId := none
  deriving DecidableEq

namespace RpcClient

/-- The client with its envelope changed. -/
def edit (change : Packet → Packet) (c : RpcClient) : RpcClient :=
  { c with packet := change c.packet }

end RpcClient

end DeviceRpc
