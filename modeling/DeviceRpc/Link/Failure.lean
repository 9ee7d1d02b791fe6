import DeviceRpc.ErrorCode

/-!
# Link failures

What goes wrong between two ends of a connection, never reported by the other
end. A failure is transient where a fresh connection may cure it; only those are
retried.
-/

namespace DeviceRpc

/-- What the system says about a failed operation. -/
inductive Condition where
  | connectionRefused | hostUnreachable | networkUnreachable | networkDown | timedOut
  | brokenPipe | connectionReset | connectionAborted | unexpectedEnd | other
  deriving DecidableEq, Repr

/-- Why nothing, or no answer, came through. -/
inductive LinkFailure where
  | connectionRefused | hostUnreachable | networkUnreachable | networkDown | timedOut
  | brokenPipe | connectionReset
  /-- The other end closed the connection. -/
  | closed
  /-- A header announced more payload than is accepted. -/
  | tooLarge (size : Nat)
  | invalidAddress (reason : String)
  /-- Refused before anything was sent. -/
  | invalidArgument (reason : String)
  | io (text : String)
  deriving DecidableEq, Repr

namespace LinkFailure

/-- The failure that a condition of the system stands for. -/
def ofCondition (text : String) : Condition → LinkFailure
  | .connectionRefused => connectionRefused
  | .hostUnreachable => hostUnreachable
  | .networkUnreachable => networkUnreachable
  | .networkDown => networkDown
  | .timedOut => timedOut
  | .brokenPipe => brokenPipe
  | .connectionReset | .connectionAborted => connectionReset
  | .unexpectedEnd => closed
  | .other => io text

/-- The wording. -/
def message : LinkFailure → String
  | connectionRefused => "connection refused"
  | hostUnreachable => "host unreachable"
  | networkUnreachable => "network unreachable"
  | networkDown => "network down"
  | timedOut => "timed out"
  | brokenPipe => "broken pipe"
  | connectionReset => "connection reset"
  | closed => "connection closed by peer"
  | tooLarge size => "payload of " ++ toString size ++ " bytes exceeds the envelope limit"
  | invalidAddress reason => "invalid address: " ++ reason
  | invalidArgument reason => "invalid argument: " ++ reason
  | io text => "i/o: " ++ text

/-- Whether a fresh connection may cure it. -/
def isTransient : LinkFailure → Bool
  | brokenPipe | connectionReset | timedOut | networkDown | networkUnreachable => true
  | _ => false

/-- The code that a server forwards for it. -/
def code : LinkFailure → ErrorCode
  | connectionRefused => .connectionRefused
  | hostUnreachable => .hostUnreachable
  | networkUnreachable => .networkUnreachable
  | networkDown => .networkDown
  | timedOut => .timedOut
  | brokenPipe => .brokenPipe
  | connectionReset => .connectionReset
  | closed => .closed
  | tooLarge _ => .outOfMemory
  | invalidAddress _ | invalidArgument _ => .invalidArgument
  | io _ => .io

/-- The short label that metrics carry. -/
def label : LinkFailure → String
  | connectionRefused => "refused"
  | hostUnreachable => "host_unreachable"
  | networkUnreachable => "network_unreachable"
  | networkDown => "network_down"
  | timedOut => "timed_out"
  | brokenPipe => "broken_pipe"
  | connectionReset => "reset"
  | closed => "closed"
  | tooLarge _ => "too_large"
  | invalidAddress _ => "invalid_address"
  | invalidArgument _ => "invalid_argument"
  | io _ => "io"

end LinkFailure

end DeviceRpc
