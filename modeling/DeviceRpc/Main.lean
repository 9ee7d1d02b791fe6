import DeviceRpc.Config.Reading
import DeviceRpc.Session.Run

/-!
# The program

Starts the node that a settings file describes and gives it one command for one of
its units, the way another machine would. The first argument is the file; the
others are the command line of a unit.
-/

namespace DeviceRpc.Program

/-- A session in which the node of some settings serves. -/
def serving (settings : Settings) : Except Failure Session := do
  let s ← Session.addNode "node" settings {}
  match (s.step (.run (.deed (.serve "node")))) with
  | (_, .failed e) => .error e
  | (s, _) => .ok s

/-- The complaint about settings that cannot be used. -/
def refusal (e : Failure) : Pdu.Printed := .complaint ("obsrpc-pdu: " ++ e.message) 1

/-- What the program prints, from the text of the settings and the arguments of the
command. -/
def answer (settings : String) (arguments : List String) : Pdu.Printed :=
  match Settings.load settings >>= serving with
  | .error e => refusal e
  | .ok s =>
    match s.step (.run (.order (.commandLine arguments))) with
    | (_, .outcome (.printed p)) => p
    | _ => .complaint "obsrpc-pdu: no answer" 1

end DeviceRpc.Program

/-- Prints what the program answers. -/
def main (arguments : List String) : IO UInt32 := do
  match arguments with
  | [] =>
    IO.eprintln ("a settings file, and then " ++ DeviceRpc.Pdu.CommandLine.usage)
    return 64
  | file :: rest =>
    match DeviceRpc.Program.answer (← IO.FS.readFile file) rest with
    | .output text =>
      IO.println text
      return 0
    | .complaint text status =>
      IO.eprintln text
      return status.toUInt32
