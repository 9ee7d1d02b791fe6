import DeviceRpc.Session.Step
import DeviceRpc.World.Schedule

/-!
# Sessions

A session is a world with tasks, and names for what is in it. After every step all
tasks go on until they wait, so no time passes unless a step waits for it. A step
that waits longer than a session has patience is given up, and what it was doing
with it; a task that was started by name goes on all the same. A step in which tasks
go on and on without waiting is given up as well, and nothing of it remains.
-/

namespace DeviceRpc

/-- A task that was started by name. -/
inductive Started where
  | running (t : TaskId)
  | ended (r : Report)

/-- A world with names. -/
structure Session where
  schedule : Schedule := {}
  nodes : List (String × NodeId) := []
  peers : List (String × Nat) := []
  /-- The clients and the clients of units, each in its cell. -/
  clients : List (String × CellId) := []
  units : List (String × CellId) := []
  started : List (String × Started) := []

namespace Session

/-- How long a step may wait, in milliseconds. -/
def patience : Nat := 1000000000

/-- How many rounds and turns tasks may take before a step is given up. -/
def budget : Nat := 1000000

/-- The world of the session. -/
def world (s : Session) : World := s.schedule.world

/-- Changes the world. -/
def onWorld (s : Session) (f : World → World) : Session :=
  { s with schedule := { s.schedule with world := f s.schedule.world } }

/-- The node of a name, with its number. -/
def node? (s : Session) (name : String) : Option (NodeId × Node) := do
  let id ← s.nodes.lookup name
  return (id, ← s.world.nodes[id]?)

/-- The object of a node at an index, with its name. -/
def object? (s : Session) (node : String) (index : UInt16) : Option (String × Object) := do
  (·.2) <$> (← s.node? node).2.registry.listing.find? (·.1 = index)

/-! ## Tasks -/

/-- Takes in what a named task came to, if it is over. -/
def collectOne (s : Session) : String × Started → Session
  | (id, .running t) =>
    match s.schedule.outcome? t with
    | some o =>
      { s with
        schedule := s.schedule.remove t
        started := s.started.map fun (name, task) =>
          (name, if name = id then .ended (.outcome o) else task) }
    | none => s
  | _ => s

/-- Lets all tasks go on until they wait, and takes in what is over. -/
def settle (s : Session) : Option Session := do
  let schedule ← s.schedule.settle budget
  return s.started.foldl collectOne { s with schedule }

/-- Starts an errand. -/
def start (s : Session) (e : Errand) : Session × TaskId :=
  let (schedule, t) := s.schedule.start (.errand e)
  ({ s with schedule }, t)

/-- Waits for a task up to a time. -/
def await (s : Session) (t : TaskId) (limit : Instant) : Option (Session × Option Outcome) := do
  let (schedule, outcome) ← s.schedule.await t limit budget
  return ({ s with schedule }, outcome)

/-- Runs an errand as long as it may take; one that takes longer is given up. -/
def runErrand (s : Session) (e : Errand) (ms : Nat) : Session × Option Outcome :=
  let (started, t) := s.start e
  let run : Option (Session × Option Outcome) := do
    let (s, outcome) ← started.await t (s.world.now + ms)
    let schedule ← if outcome.isSome then some s.schedule else s.schedule.giveUp budget t
    return (← { s with schedule }.settle, outcome)
  run.getD (s, none)

end Session

end DeviceRpc
