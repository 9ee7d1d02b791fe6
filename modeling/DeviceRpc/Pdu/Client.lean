import DeviceRpc.Call.Client

/-!
# Clients of one unit

A client of one named unit on one server. It connects when it is first used and
looks the unit's index up on the new connection; both are forgotten together.
-/

namespace DeviceRpc

/-- A client of one unit. -/
structure PduClient where
  endpoint : Endpoint
  options : LinkOptions
  /-- The name of the unit on its server. -/
  name : String
  /-- The connection, if there is one. -/
  rpc : Option RpcClient := none
  /-- The unit's index, zero until it was looked up. -/
  index : UInt16 := 0
  /-- Where the client is kept between calls, if it is shared. -/
  home : Option CellId := none
  deriving DecidableEq

/-- The client without a connection. -/
def PduClient.forget (c : PduClient) : PduClient := { c with rpc := none, index := 0 }

end DeviceRpc
