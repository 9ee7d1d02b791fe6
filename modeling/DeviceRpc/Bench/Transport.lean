import DeviceRpc.Bench.Errand
import DeviceRpc.Call.Shared

/-!
# Rehearsed transports

A transport that carries nothing: an operation takes its time and then the next
outcome that was written down, and so does a reconnect, at once.
-/

namespace DeviceRpc

namespace Rehearsal

/-- Something for the log. -/
def note (e : RehearsalEvent) : Calling Rehearsal Unit :=
  modify fun r => { r with log := e :: r.log }

/-- The next outcome. -/
def nextOutcome : Calling Rehearsal Nat := do
  let r ← get
  match r.outcomes with
  | [] => return 0
  | outcome :: rest =>
    set { r with outcomes := rest }
    match outcome with
    | .ok n => return n
    | .error e => throw e

/-- The next reconnect. -/
def nextReconnect : Calling Rehearsal Unit := do
  note .reconnecting
  let r ← get
  match r.reconnects with
  | [] => return ()
  | outcome :: rest =>
    set { r with reconnects := rest }
    match outcome with
    | .ok _ => return ()
    | .error e => throw e

/-- An operation: it takes its time and then the next outcome. -/
def operation (run ms : Nat) : Calling Rehearsal Nat := do
  note (.started run)
  let now ← ask .now
  ask (.sleepUntil (now + ms))
  let n ← Calling.onFailure nextOutcome fun _ => modify fun r =>
    { r with log := .ended run false :: r.log }
  note (.ended run true)
  return n

/-- The rehearsal in a cell as a shared transport. -/
def transport (cell : CellId) : Transport Rehearsal where
  cell
  load := ask (.rehearsal cell)
  keep r := ask (.keepRehearsal cell r)
  reconnect := nextReconnect

end Rehearsal

end DeviceRpc
