import DeviceRpc.Link.Failure
import DeviceRpc.Text.Blank
import DeviceRpc.Text.Numeral
import DeviceRpc.Text.Quoted
import DeviceRpc.Text.Split

/-!
# Endpoints

Where a server listens, as an operator writes it. A slash anywhere makes the
address the path of a socket. Otherwise it is a host and a port: `host:port`,
`[host]:port` where the host holds colons, `:port` for the local host, and a
host alone for the port that the caller prefers. Printing an endpoint gives an
address that reads as the same endpoint.
-/

namespace DeviceRpc

/-- Where to listen or to connect. -/
inductive Endpoint where
  | tcp (host : String) (port : UInt16)
  | unix (path : String)
  deriving DecidableEq, Repr

namespace Endpoint

/-- The port after a host. -/
def port? (addr p : List Char) : Except LinkFailure UInt16 :=
  match Text.u16? (String.ofList p) with
  | some port => .ok port
  | none =>
    .error (.invalidAddress (String.ofList addr ++ ": bad port " ++ Text.quoted (String.ofList p)))

/-- An address that opens with a bracket, without it. -/
def ofBracketed (addr rest : List Char) (preferred : UInt16) : Except LinkFailure Endpoint :=
  match Text.splitFirst? ']' rest with
  | none => .error (.invalidAddress (String.ofList addr))
  | some (host, []) => .ok (.tcp (String.ofList host) preferred)
  | some (host, ':' :: p) => .tcp (String.ofList host) <$> port? addr p
  | some (_, _ :: _) => .error (.invalidAddress (String.ofList addr))

/-- An address of a host without brackets. -/
def ofPlain (addr : List Char) (preferred : UInt16) : Except LinkFailure Endpoint :=
  match Text.splitFirst? ':' addr with
  | none => .ok (.tcp (String.ofList addr) preferred)
  | some (host, p) =>
    if ':' ∈ p then .error (.invalidAddress (String.ofList addr ++ ": bracket IPv6 hosts"))
    else .tcp (if host = [] then "localhost" else String.ofList host) <$> port? addr p

/-- An address without blanks around it. -/
def ofTrimmed (addr : List Char) (preferred : UInt16) : Except LinkFailure Endpoint :=
  match addr with
  | [] => .error (.invalidAddress "empty address")
  | c :: rest =>
    if '/' ∈ addr then .ok (.unix (String.ofList addr))
    else if c = '[' then ofBracketed addr rest preferred
    else ofPlain addr preferred

/-- The endpoint of an address, with `preferred` for a port that it does not
give. -/
def parse (addr : String) (preferred : UInt16) : Except LinkFailure Endpoint :=
  ofTrimmed (Text.trimChars addr.toList) preferred

/-- The address of an endpoint. -/
def address : Endpoint → String
  | tcp host port =>
    (if ':' ∈ host.toList then "[" ++ host ++ "]" else host) ++ ":" ++ toString port.toNat
  | unix path => path

/-- Whether the endpoint is a path. -/
def isUnix : Endpoint → Bool
  | unix _ => true
  | tcp _ _ => false

end Endpoint

end DeviceRpc
