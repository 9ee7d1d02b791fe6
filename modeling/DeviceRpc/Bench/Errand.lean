import DeviceRpc.Bench.Filling
import DeviceRpc.Call.Client
import DeviceRpc.Device.Object
import DeviceRpc.Pdu.CommandLine

/-!
# Errands

What a bench sends a task out to do: use a client, run the command line, dispatch
a request, wait for an object, or play a peer that follows a script. An errand is
data; what it does is a program of its own.
-/

namespace DeviceRpc

/-- One line of a peer's script. -/
inductive PeerLine where
  /-- Read a whole frame; the script ends where none comes. -/
  | read
  | send (bs : Bytes)
  /-- Send back the last frame without its payload, filled. -/
  | reply (filling : Filling)
  | sleep (ms : Nat)
  /-- Keep the connection for good. -/
  | hold

/-- What to do with a client. -/
inductive RpcErrand where
  | prepare (protocol command index : UInt16) (filling : Filling)
  | fill (filling : Filling)
  | call | read | write | reconnect
  | inspect (index : UInt16)
  | register (index : UInt16) (seconds : Binary64)
  | lookup (protocol command : UInt16) (name : String)

/-- What to do with the client of a unit. -/
inductive PduErrand where
  | command (c : Pdu.Command)
  | reconnect

/-- Bytes sent by hand, and how. -/
structure RawErrand where
  endpoint : Endpoint
  chunks : List Bytes
  /-- The time between two chunks. -/
  gap : Nat := 0
  /-- Whether the sending side stays open at the end. -/
  keepOpen : Bool := false

/-- What a task is sent out to do. -/
inductive Errand where
  | dispatch (node : NodeId) (request : Packet)
  | inspect (object : Object)
  | inspectAll (node : NodeId)
  | wait (monitor : MonitorId) (nanoseconds : Option Nat)
  | waitSeconds (monitor : MonitorId) (seconds : Binary64)
  | rpc (cell : CellId) (what : RpcErrand)
  | pdu (cell : CellId) (what : PduErrand)
  | raw (what : RawErrand)
  | commandLine (arguments : List String)
  /-- The outlets of an object, straight from its driver. -/
  | outlets (object : Object)
  | sleep (ms : Nat)
  /-- A rehearsed operation under the retry rule. -/
  | rehearse (cell : CellId) (run : Nat) (ms : Nat)

/-- What an entry of a rehearsal says: the operation or reconnect succeeds with a
number, or fails. -/
abbrev Rehearsed := Except CallFailure Nat

/-- What happened in a rehearsal. -/
inductive RehearsalEvent where
  | started (run : Nat)
  | ended (run : Nat) (succeeded : Bool)
  | reconnecting
  deriving DecidableEq, Repr

/-- A transport whose outcomes are written down beforehand; where nothing is
written, an operation succeeds with zero. -/
structure Rehearsal where
  outcomes : List Rehearsed := []
  reconnects : List Rehearsed := []
  /-- What happened, latest first. -/
  log : List RehearsalEvent := []

end DeviceRpc
