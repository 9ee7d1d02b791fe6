import DeviceRpc.ErrorCode
import DeviceRpc.Metrics.Family

/-!
# The metrics of a node

What a node counts: requests by command and result, requests for another
protocol, unknown commands, connections that broke, the time that requests took,
and the connections that are open; besides, whether the node is draining. What
happens on a connection reaches the counts as an `Event`.
-/

namespace DeviceRpc

/-- The counts of a node. -/
structure NodeMetrics where
  requests : Metrics.Family UInt64 := []
  protocolMismatches : Metrics.Family UInt64 := []
  unknownCommands : Metrics.Family UInt64 := []
  linkErrors : Metrics.Family UInt64 := []
  dispatchDuration : Metrics.Family Metrics.Histogram := []
  activeConnections : Metrics.Family Int64 := []
  draining : Bool := false

namespace NodeMetrics

open Metrics

instance : Inhabited NodeMetrics := ⟨{}⟩

/-- A family of counters. -/
inductive Counter where
  | requests | protocolMismatches | unknownCommands | linkErrors
  deriving DecidableEq, Repr

/-- Adds to a counter. -/
def add (counter : Counter) (pairs : List (String × String)) (v : UInt64) (m : NodeMetrics) :
    NodeMetrics :=
  let change := Family.update (labels pairs) (· + v)
  match counter with
  | .requests => { m with requests := change m.requests }
  | .protocolMismatches => { m with protocolMismatches := change m.protocolMismatches }
  | .unknownCommands => { m with unknownCommands := change m.unknownCommands }
  | .linkErrors => { m with linkErrors := change m.linkErrors }

/-- Adds one to a counter. -/
def inc (counter : Counter) (pairs : List (String × String)) (m : NodeMetrics) : NodeMetrics :=
  m.add counter pairs 1

/-- Adds to the gauge of open connections. -/
def addActive (pairs : List (String × String)) (v : Int64) (m : NodeMetrics) : NodeMetrics :=
  { m with activeConnections := Family.update (labels pairs) (· + v) m.activeConnections }

/-- Observes a duration. -/
def observe (pairs : List (String × String)) (nanoseconds : Nat) (m : NodeMetrics) :
    NodeMetrics :=
  { m with
    dispatchDuration := Family.update (labels pairs) (·.observe nanoseconds) m.dispatchDuration }

/-- What a connection of a service reports. -/
inductive Event where
  | connectionOpened
  | connectionClosed
  /-- The connection ended with a failure of this label. -/
  | linkFailed (label : String)
  /-- A request was answered. -/
  | dispatched (command errorCode : UInt16) (nanoseconds : Nat)
  deriving DecidableEq, Repr

/-- What a request came to, as its counter says it. -/
def resultName (errorCode : UInt16) : String :=
  match ErrorCode.ofNumber? errorCode with
  | none => "ok"
  | some code => code.name

/-- Counts an answered request. -/
def recordDispatch (service : String) (command errorCode : UInt16) (nanoseconds : Nat)
    (m : NodeMetrics) : NodeMetrics :=
  let command := toString command.toNat
  let m := m.inc .requests
    [("service", service), ("command", command), ("result", resultName errorCode)]
  let m := match ErrorCode.ofNumber? errorCode with
    | some .protocolWrong => m.inc .protocolMismatches [("service", service)]
    | some .badCommand => m.inc .unknownCommands [("service", service), ("command", command)]
    | _ => m
  m.observe [("service", service)] nanoseconds

/-- Counts an event of a service. -/
def record (service : String) (event : Event) (m : NodeMetrics) : NodeMetrics :=
  match event with
  | .connectionOpened => m.addActive [("service", service)] 1
  | .connectionClosed => m.addActive [("service", service)] (-1)
  | .linkFailed label => m.inc .linkErrors [("service", service), ("kind", label)]
  | .dispatched command errorCode nanoseconds =>
    m.recordDispatch service command errorCode nanoseconds

/-- Orders to go through the families of a node. -/
structure Traversals where
  counters : Counter → Traversal UInt64
  dispatchDuration : Traversal Histogram
  activeConnections : Traversal Int64

/-- The exposition: the families, whether the node is draining, and numbers that the
caller adds. -/
def text (order : Traversals) (extra : List (String × UInt64)) (m : NodeMetrics) : String :=
  let counter (name : String) (c : Counter) (family : Family UInt64) : String :=
    numberText "counter" name (fun n => toString n.toNat) ((order.counters c).list family)
  counter "obsrpc_requests_total" .requests m.requests
    ++ counter "obsrpc_protocol_mismatches_total" .protocolMismatches m.protocolMismatches
    ++ counter "obsrpc_unknown_commands_total" .unknownCommands m.unknownCommands
    ++ counter "obsrpc_transport_errors_total" .linkErrors m.linkErrors
    ++ histogramText "obsrpc_dispatch_duration_micros"
      (order.dispatchDuration.list m.dispatchDuration)
    ++ numberText "gauge" "obsrpc_connections_active" (fun n => toString n.toInt)
      (order.activeConnections.list m.activeConnections)
    ++ "# TYPE obsrpc_draining gauge\nobsrpc_draining " ++ (if m.draining then "1" else "0") ++ "\n"
    ++ String.join (extra.map fun (name, n) => name ++ " " ++ toString n.toNat ++ "\n")

end NodeMetrics

end DeviceRpc
