import DeviceRpc.Link.Failure

/-!
# Call failures

A call fails on either side of the wire and the two never mix: a remote failure
is the code of a reply that arrived, a link failure means that none did. Codes of
the first kind count up from zero, those of the second down.
-/

namespace DeviceRpc

/-- Why a call did not succeed. -/
inductive CallFailure where
  /-- The server answered with a code. -/
  | remote (code : ErrorCode)
  /-- No answer arrived, or the request was refused before it was sent. -/
  | link (failure : LinkFailure)
  deriving DecidableEq, Repr

namespace CallFailure

/-- The wording. -/
def message : CallFailure → String
  | remote code => "remote: " ++ code.message
  | link failure => "transport: " ++ failure.message

/-- The code, whichever side it comes from. -/
def code : CallFailure → ErrorCode
  | remote code => code
  | link failure => failure.code

/-- The signed status: positive from the server, negative from the link. -/
def status : CallFailure → Int
  | remote code => code.number.toNat
  | link failure => -(failure.code.number.toNat : Int)

/-- Whether a fresh connection may cure it. -/
def isTransient : CallFailure → Bool
  | remote _ => false
  | link failure => failure.isTransient

/-- One line for the operator. -/
def diagnostic : CallFailure → String
  | remote .notFound => "object not found"
  | remote .timedOut => "device timed out"
  | remote .protocolWrong => "wrong protocol for this server"
  | remote .badCommand => "command not supported by this server"
  | remote .invalidArgument => "invalid argument"
  | remote .powerOff => "device is powered off"
  | remote _ => "request failed on the server"
  | link .connectionRefused => "server refused the connection"
  | link .hostUnreachable => "host unreachable"
  | link .networkUnreachable => "network unreachable"
  | link .networkDown => "network is down"
  | link .timedOut => "timed out waiting for the server"
  | link .closed => "server closed the connection"
  | link (.invalidArgument _) => "request rejected before sending"
  | link _ => "communication failure"

/-- The exit status of a command that failed: two where the object is not known,
three where time ran out, one otherwise. -/
def exitStatus (e : CallFailure) : UInt8 :=
  match e.code with
  | .notFound => 2
  | .timedOut => 3
  | _ => 1

end CallFailure

/-- The signed status of an outcome, zero for success. -/
def statusCode {α : Type} : Except CallFailure α → Int
  | .ok _ => 0
  | .error e => e.status

end DeviceRpc
