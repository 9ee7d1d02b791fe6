import DeviceRpc.Bytes
import DeviceRpc.Link.Options

/-!
# Connections as a task sees them

A connection has two sides, the one that dialed and the one that accepted; a
handle is one side of one connection. Receiving gives some of the bytes that
arrived, at least one, or says why there are none.
-/

namespace DeviceRpc

/-- A time in whole milliseconds. -/
abbrev Instant := Nat

/-- A connection by number. -/
abbrev ConnectionId := Nat

/-- A listener by number. -/
abbrev ListenerId := Nat

/-- A side of a connection. -/
inductive Side where
  | dialer | acceptor
  deriving DecidableEq, Repr

/-- The side across. -/
def Side.other : Side → Side
  | dialer => acceptor
  | acceptor => dialer

/-- One side of one connection. -/
structure Handle where
  connection : ConnectionId
  side : Side
  deriving DecidableEq, Repr

/-- What receiving comes to. It fails in no other way. -/
inductive Received where
  /-- The first byte, and those that came along with it. -/
  | bytes (first : UInt8) (rest : Bytes)
  /-- The other side closed, and everything it sent was read. -/
  | ended
  /-- The other side closed and left bytes unread. -/
  | reset
  /-- Nothing came in time. -/
  | late
  deriving DecidableEq, Repr

/-- A side of a connection with the limits that hold on it. -/
structure Channel where
  handle : Handle
  options : LinkOptions
  deriving DecidableEq, Repr

end DeviceRpc
