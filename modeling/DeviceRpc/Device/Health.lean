import DeviceRpc.Program.Act

/-!
# Health

A monitor remembers whether the last inspection of its object succeeded; before
the first one it did not. An inspection runs the object's probes in order up to
the first that fails, and only its end changes the monitor. Waiting for health
looks once and then waits for the change, as long as it may.
-/

namespace DeviceRpc

/-- A whole millisecond holds this many nanoseconds. -/
def nanosPerMilli : Nat := 1000000

/-- Nanoseconds in whole milliseconds, rounded up. -/
def millisCeil (nanoseconds : Nat) : Nat := (nanoseconds + (nanosPerMilli - 1)) / nanosPerMilli

namespace Health

/-- A health check. -/
abbrev Probe := Task (Except ErrorCode Unit)

/-- Runs probes in order up to the first that fails, and records the outcome. -/
def inspect (monitor : MonitorId) : List Probe → Task (Except ErrorCode Unit)
  | [] => do
    ask (.setHealth monitor true)
    return .ok ()
  | probe :: probes => do
    match ← probe with
    | .ok () => inspect monitor probes
    | .error code =>
      ask (.setHealth monitor false)
      return .error code

/-- Waits for health, for a number of nanoseconds or for good. -/
def wait (monitor : MonitorId) (nanoseconds : Option Nat) : Task (Except ErrorCode Unit) := do
  let limit ← deadline (nanoseconds.map millisCeil)
  return if ← ask (.awaitHealthy monitor limit) then .ok () else .error .timedOut

/-- Waits for a number of seconds; one that is not positive, or that is no
time, waits for good. -/
def waitSeconds (monitor : MonitorId) (seconds : Binary64) : Task (Except ErrorCode Unit) :=
  wait monitor seconds.nanoseconds?

end Health

end DeviceRpc
