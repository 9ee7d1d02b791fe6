import DeviceRpc.Binary64.Places
import DeviceRpc.Pdu.Exchange

/-!
# The front end for one unit

What the program prints: readings with three places and their unit, a status with
a line for each outlet, a channel as a number, and a plain word for a command that
answers nothing. A failure is one line that says what it means and what it was.
-/

namespace DeviceRpc.Pdu

/-- What the program leaves behind. -/
inductive Printed where
  | output (text : String)
  | complaint (text : String) (exitStatus : UInt8)
  deriving DecidableEq, Repr

namespace CommandLine

/-- How long the program waits for a connection, in milliseconds. -/
def connectTimeout : Nat := 3000

/-- A line for an outlet. -/
def outletLine (place : Nat) (on : UInt8) : String :=
  toString (place + 1) ++ if on ≠ 0 then " on" else " off"

/-- A status as text. -/
def statusText (bs : Bytes) : String :=
  "\n".intercalate (bs.mapIdx outletLine)

/-- A voltage with its unit. -/
def voltageText (v : Binary64) : String := v.threePlaces ++ " V"

/-- A current with its unit. -/
def currentText (a : Binary64) : String := a.threePlaces ++ " A"

/-- Carries a command out and gives the text for it. -/
def perform : Command → Calling PduClient String
  | .turnOn channel => do PduClient.switch true channel; return "ok"
  | .turnOff channel => do PduClient.switch false channel; return "ok"
  | .voltage channel => return voltageText (← PduClient.voltage channel)
  | .current channel => return currentText (← PduClient.current channel)
  | .voltageCurrent channel => do
    let (v, a) ← PduClient.voltageCurrent channel
    return voltageText v ++ " " ++ currentText a
  | .status limit => return statusText (← PduClient.status limit)
  | .channel name => return toString (← PduClient.channelByName name).toNat
  | .inspect => do PduClient.inspect; return "ok"
  | .register seconds => do PduClient.register seconds; return "ok"

/-- The line for a failure. -/
def complaint (e : CallFailure) : String :=
  "obsrpc-pdu: " ++ e.diagnostic ++ " (" ++ e.message ++ ")"

/-- The exit status of arguments that cannot be read. -/
def usageStatus : UInt8 := 64

/-- Reads the arguments and carries the command out. -/
def run (arguments : List String) : Task Printed := do
  match parse arguments with
  | .error message => return .complaint message usageStatus
  | .ok i =>
    let client : PduClient := {
      endpoint := i.endpoint, name := i.pdu
      options := { connectTimeout := some connectTimeout } }
    let (result, client) ← (perform i.command).run.run client
    if let some rpc := client.rpc then rpc.channel.close
    match result with
    | .ok text => return .output text
    | .error e => return .complaint (complaint e) e.exitStatus

end CommandLine

end DeviceRpc.Pdu
