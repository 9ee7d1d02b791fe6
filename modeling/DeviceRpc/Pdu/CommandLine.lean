import DeviceRpc.Binary64.Reading
import DeviceRpc.Link.Endpoint
import DeviceRpc.Protocol

/-!
# The command line of one remote PDU

The arguments are an address, the name of a PDU, a command and what the command
takes. A switch or a reading takes a channel; a status takes a limit or nothing,
and registering a number of seconds or nothing. `parse` reads them or gives the
one line that says what is wrong.
-/

namespace DeviceRpc.Pdu

/-- What to do with the PDU. -/
inductive Command where
  | turnOn (channel : UInt16)
  | turnOff (channel : UInt16)
  | voltage (channel : UInt16)
  | current (channel : UInt16)
  | voltageCurrent (channel : UInt16)
  /-- At most `limit` outlets, all of them for zero. -/
  | status (limit : UInt32)
  /-- The channel of an outlet by its name. -/
  | channel (name : String)
  | inspect
  /-- Wait until the PDU is healthy, at most so many seconds. -/
  | register (seconds : Binary64)
  deriving DecidableEq, Repr

/-- A command for one PDU at one address. -/
structure Invocation where
  endpoint : Endpoint
  pdu : String
  command : Command
  deriving DecidableEq, Repr

namespace CommandLine

/-- How the program is called. -/
def usage : String :=
  "usage: obsrpc-pdu ADDRESS PDU on|off|voltage|current|vc CH | status [LIMIT] | channel NAME"
    ++ " | inspect | register [SECS]"

/-- A number that an argument must spell. -/
def number {α : Type} (what : String) (read : String → Option α) (arg : Option String) :
    Except String α :=
  match arg with
  | none => .error (what ++ " missing")
  | some arg =>
    match read arg with
    | some n => .ok n
    | none => .error ("bad " ++ what ++ ": " ++ Text.quoted arg)

/-- A number that may be left out. -/
def numberOr {α : Type} (what : String) (read : String → Option α) (absent : α)
    (arg : Option String) : Except String α :=
  if arg.isNone then .ok absent else number what read arg

/-- The command of a word and what follows it. -/
def command (word : String) (arg : Option String) : Except String Command :=
  match word with
  | "on" => .turnOn <$> number "channel" Text.u16? arg
  | "off" => .turnOff <$> number "channel" Text.u16? arg
  | "voltage" => .voltage <$> number "channel" Text.u16? arg
  | "current" => .current <$> number "channel" Text.u16? arg
  | "vc" => .voltageCurrent <$> number "channel" Text.u16? arg
  | "status" => .status <$> numberOr "limit" Text.u32? 0 arg
  | "channel" =>
    match arg with
    | some name => .ok (.channel name)
    | none => .error "outlet name missing"
  | "inspect" => .ok .inspect
  | "register" => .register <$> numberOr "timeout" Binary64.ofText? .zero arg
  | word => .error ("unknown command " ++ Text.quoted word ++ "\n" ++ usage)

/-- Reads the arguments. -/
def parse : List String → Except String Invocation
  | address :: pdu :: word :: rest => do
    let endpoint ← (Endpoint.parse address Protocol.Port.pdu).mapError LinkFailure.message
    let command ← command word rest.head?
    return { endpoint, pdu, command }
  | _ => .error usage

end CommandLine

end DeviceRpc.Pdu
