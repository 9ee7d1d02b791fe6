import DeviceRpc.ErrorCode

/-!
# Failures

What can go wrong with a packet, a registry or a configuration before anything
is sent. Each class has one wording and one error code; the text inside it says
what was wrong.
-/

namespace DeviceRpc

/-- Why an operation of this library refused. -/
inductive Failure where
  | invalidArgument (reason : String)
  | decode (reason : String)
  /-- The envelope cannot grow to this many bytes. -/
  | outOfMemory (size : Nat)
  | notFound (name : String)
  | alreadyExists (name : String)
  | unsupportedVersion
  | config (reason : String)
  | internal (reason : String)
  deriving DecidableEq, Repr

namespace Failure

/-- The wording. -/
def message : Failure → String
  | invalidArgument reason => "invalid argument: " ++ reason
  | decode reason => "decode error: " ++ reason
  | outOfMemory size => "out of memory: cannot grow envelope to " ++ toString size ++ " bytes"
  | notFound name => "not found: " ++ name
  | alreadyExists name => "already exists: " ++ name
  | unsupportedVersion => "unsupported config version"
  | config reason => "config: " ++ reason
  | internal reason => "internal: " ++ reason

/-- The code a reply carries for it. -/
def code : Failure → ErrorCode
  | invalidArgument _ => .invalidArgument
  | decode _ => .badMessage
  | outOfMemory _ => .outOfMemory
  | notFound _ => .notFound
  | alreadyExists _ => .alreadyExists
  | unsupportedVersion => .notSupported
  | config _ => .invalidArgument
  | internal _ => .error

end Failure

end DeviceRpc
