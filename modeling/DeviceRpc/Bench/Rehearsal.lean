import DeviceRpc.World.Nodes
import DeviceRpc.World.Schedule

/-!
# Rehearsals

An operation is run under the retry rule on a transport whose outcomes are written
down beforehand, several times in turn or all at once. Since the shared transport
is used in turn, runs that start together still end in their order.
-/

namespace DeviceRpc

/-- What a rehearsal came to. -/
structure Rehearsal.Played where
  /-- The result of each run, and the number of reconnects by then. -/
  runs : List (Rehearsed × Nat)
  /-- What is left, with the log. -/
  rest : Rehearsal
  reconnects : Nat

namespace Rehearsal

/-- How many rounds and turns the runs may take. -/
def budget : Nat := 1000000

/-- The number of reconnects of the first cell. -/
def reconnectCount (s : Schedule) : Nat := s.world.cells[0]?.elim 0 (·.reconnects.toNat)

/-- Starts one run. -/
def start (ms run : Nat) (s : Schedule) : Schedule × TaskId :=
  s.start (.errand (.rehearse 0 run ms))

/-- Waits for a run. -/
def await (limit : Instant) (s : Schedule) (t : TaskId) : Schedule × List (Rehearsed × Nat) :=
  match s.await t limit budget with
  | some (s, some (.rehearsed r)) => (s, [(r, reconnectCount s)])
  | some (s, _) => (s, [])
  | none => (s, [])

/-- The runs one after the other. -/
def inTurn (limit ms : Nat) : List Nat → Schedule → Schedule × List (Rehearsed × Nat)
  | [], s => (s, [])
  | run :: runs, s =>
    let (s, t) := start ms run s
    let (s, r) := await limit s t
    let (s, rs) := inTurn limit ms runs s
    (s, r ++ rs)

/-- Starts runs in order. -/
def startAll (ms : Nat) : List Nat → Schedule → Schedule × List TaskId
  | [], s => (s, [])
  | run :: runs, s =>
    let (s, t) := start ms run s
    let (s, ts) := startAll ms runs s
    (s, t :: ts)

/-- Waits for runs in order. -/
def awaitAll (limit : Instant) : List TaskId → Schedule → Schedule × List (Rehearsed × Nat)
  | [], s => (s, [])
  | t :: ts, s =>
    let (s, r) := await limit s t
    let (s, rs) := awaitAll limit ts s
    (s, r ++ rs)

/-- The runs all at once. -/
def together (limit ms : Nat) (runs : List Nat) (s : Schedule) :
    Schedule × List (Rehearsed × Nat) :=
  let (s, ts) := startAll ms runs s
  awaitAll limit ts s

/-- Runs the operation `runs` times, each time for `ms` milliseconds and once more
after a reconnect. -/
def play (r : Rehearsal) (runs ms : Nat) (parallel : Bool) : Played :=
  let (world, _) := World.addCell (fun _ => .rehearsal r) {}
  let s : Schedule := { world }
  let limit := 2 * ms * runs
  let numbers := List.range runs
  let (s, results) := if parallel then together limit ms numbers s else inTurn limit ms numbers s
  { runs := results
    rest := (s.world.rehearsal? 0).getD r
    reconnects := reconnectCount s }

end Rehearsal

end DeviceRpc
