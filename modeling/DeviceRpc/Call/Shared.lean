import DeviceRpc.Call.Exchange

/-!
# Shared transports

Several tasks use one connection in turn. Each run takes the lock, and everything
up to its end happens under it: the operation and, after a transient failure, one
reconnect and the operation once more. A failed reconnect, a failure that is not
transient and a second failure are what the run comes to.
-/

namespace DeviceRpc

/-- A client in a cell: how to take it up, how to put it down again, and how to
give it a new connection. -/
structure Transport (σ : Type) where
  cell : CellId
  load : Task σ
  keep : σ → Task Unit
  reconnect : Calling σ Unit

namespace Transport

variable {σ α : Type}

/-- An operation on the client as it is kept, which is kept as it then is. -/
def under (t : Transport σ) (op : Calling σ α) : Task (Except CallFailure α) := do
  let (result, s) ← op.run.run (← t.load)
  t.keep s
  return result

/-- The retry rule, by a task that has the lock. -/
def attempt (t : Transport σ) (op : Calling σ α) : Task (Except CallFailure α) := do
  match ← t.under op with
  | .ok a => return .ok a
  | .error e =>
    if e.isTransient then do
      ask (.countReconnect t.cell)
      match ← t.under t.reconnect with
      | .ok () => t.under op
      | .error e => return .error e
    else return .error e

/-- One run: the retry rule under the lock. -/
def run (t : Transport σ) (op : Calling σ α) : Task (Except CallFailure α) := do
  ask (.acquire t.cell)
  let result ← t.attempt op
  ask (.release t.cell)
  return result

end Transport

end DeviceRpc
