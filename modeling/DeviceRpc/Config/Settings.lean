import DeviceRpc.Config.SocketAddress
import DeviceRpc.Failure
import DeviceRpc.Link.Endpoint
import DeviceRpc.Link.Options
import DeviceRpc.Protocol

/-!
# Settings of a node

A node serves power-distribution units on one endpoint. A unit is either local,
with named outlets, or a relay to a unit of another node. `validate` accepts the
settings that describe a service and reports the first thing that is wrong with
the others; it looks at the version, the presence of units, the server, the
operations listener and then the units in their order.
-/

namespace DeviceRpc

/-- Where and how the node serves. -/
structure ServerSettings where
  listen : String := "0.0.0.0:13002"
  /-- The limit of one transfer in milliseconds, none for zero. -/
  ioTimeout : Nat := 0
  maxPayload : Nat := 16777216
  deriving DecidableEq, Repr

/-- The unit of another node that a relay stands for. -/
structure RelaySettings where
  address : String
  name : String
  /-- Milliseconds, none for zero. -/
  connectTimeout : Nat := 3000
  /-- Milliseconds, none for zero. -/
  ioTimeout : Nat := 0
  deriving DecidableEq, Repr

/-- One unit. -/
structure PduSettings where
  name : String
  outlets : List String := []
  relay : Option RelaySettings := none
  deriving DecidableEq, Repr

/-- The settings of a node. -/
structure Settings where
  version : Nat := 1
  server : ServerSettings := {}
  /-- Where the operations listener stands, if there is one. -/
  ops : Option String := none
  pdus : List PduSettings := []
  deriving DecidableEq, Repr

/-! ## The server -/

namespace ServerSettings

/-- The endpoint to listen on. -/
def endpoint (s : ServerSettings) : Except Failure Endpoint :=
  (Endpoint.parse s.listen Protocol.Port.pdu).mapError fun e =>
    .config ("server.listen: " ++ e.message)

/-- The limits of its connections. -/
def options (s : ServerSettings) : LinkOptions where
  ioTimeout := LinkOptions.timeout s.ioTimeout
  maxPayload := s.maxPayload

/-- The least payload limit that settings may give. -/
def minMaxPayload : Nat := 1024

/-- The greatest payload limit that settings may give. -/
def maxMaxPayload : Nat := 1073741824

/-- Accepts a payload limit in range and an address that can be read. -/
def validate (s : ServerSettings) : Except Failure Unit :=
  if minMaxPayload ≤ s.maxPayload ∧ s.maxPayload ≤ maxMaxPayload then
    (fun _ => ()) <$> s.endpoint
  else
    .error (.config "server.max_payload_bytes must be between 1024 and 1073741824")

end ServerSettings

/-! ## The units -/

namespace RelaySettings

/-- The endpoint of the other node. -/
def endpoint (s : RelaySettings) : Except Failure Endpoint :=
  (Endpoint.parse s.address Protocol.Port.pdu).mapError fun e => .config e.message

/-- The limits of the connection to it. -/
def options (s : RelaySettings) : LinkOptions where
  connectTimeout := LinkOptions.timeout s.connectTimeout
  ioTimeout := LinkOptions.timeout s.ioTimeout

/-- Accepts a name and an address that can be read. -/
def validate (pdu : String) (s : RelaySettings) : Except Failure Unit :=
  if s.name = "" then
    .error (.config ("pdu " ++ pdu ++ ": upstream.name must not be empty"))
  else
    match s.endpoint with
    | .ok _ => .ok ()
    | .error e => .error (.config ("pdu " ++ pdu ++ ": upstream.address: " ++ e.message))

end RelaySettings

namespace PduSettings

/-- The greatest number of outlets, since a channel has sixteen bits. -/
def maxOutlets : Nat := 65535

/-- Accepts outlets that can be told apart. -/
def validateOutlets (s : PduSettings) : Except Failure Unit :=
  if s.outlets.contains "" ∨ ¬ s.outlets.Nodup then
    .error (.config ("pdu " ++ s.name ++ ": outlet names must be non-empty and unique"))
  else if maxOutlets < s.outlets.length then
    .error (.config ("pdu " ++ s.name ++ ": too many outlets"))
  else .ok ()

/-- Accepts a named unit that is local or a relay, not both. -/
def validate (s : PduSettings) : Except Failure Unit :=
  if s.name = "" then .error (.config "pdu name must not be empty")
  else match s.relay, s.outlets with
    | some _, _ :: _ =>
      .error (.config ("pdu " ++ s.name ++ ": outlets and upstream are mutually exclusive"))
    | none, [] => .error (.config ("pdu " ++ s.name ++ ": needs outlets or an upstream"))
    | some relay, [] => relay.validate s.name
    | none, _ :: _ => s.validateOutlets

/-- Accepts units with distinct names, each acceptable itself; `seen` are the
names before them. -/
def validateAll (seen : List String) : List PduSettings → Except Failure Unit
  | [] => .ok ()
  | pdu :: rest => do
    if seen.contains pdu.name then .error (.config ("duplicate pdu name: " ++ pdu.name))
    else
      pdu.validate
      validateAll (pdu.name :: seen) rest

end PduSettings

/-! ## The node -/

namespace Settings

/-- Accepts an address that the operations listener can take. -/
def validateOps (listen : String) : Except Failure Unit :=
  if SocketAddress.accepts listen then .ok ()
  else .error (.config "ops.listen must be a SocketAddr: invalid socket address syntax")

/-- Accepts settings that describe a service. -/
def validate (s : Settings) : Except Failure Unit := do
  if s.version ≠ 1 then .error .unsupportedVersion
  else if s.pdus = [] then .error (.config "pdus must not be empty")
  else
    s.server.validate
    match s.ops with
    | some listen => validateOps listen
    | none => .ok ()
    PduSettings.validateAll [] s.pdus

end Settings

end DeviceRpc
