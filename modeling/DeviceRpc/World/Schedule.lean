import DeviceRpc.Bench.Work
import DeviceRpc.World.Basic

/-!
# Schedules

Tasks take turns in the order they were started. A turn goes on until the task has
to wait; when every task waits, the clock moves to the first time that one of them
waits for. A task that waits for bytes until then is late, even if others send at
that very time. A task that a bench waits for is given a limit, and is given up when
the limit comes first.

Nothing bounds how much tasks do while they need not wait. So they are given a budget
of rounds and turns, and nothing comes of it, `none`, where they go on beyond it. What
does come of it is the same with any larger budget.
-/

namespace DeviceRpc

/-- How far a task is. -/
inductive Progress where
  | running (t : Task Ending)
  | finished (o : Outcome)

/-- A world and the tasks in it, in the order they were started. -/
structure Schedule where
  world : World := {}
  tasks : List (TaskId × Progress) := []
  /-- The number of the next task. -/
  next : TaskId := 0

namespace Schedule

/-- A task goes on until it is done or has to wait; whether it got any further. -/
def advance (t : TaskId) : World → Bool → Task Ending → World × Bool × Task Ending
  | w, moved, .done e => (w, moved, .done e)
  | w, moved, .ask a next =>
    match w.answer t a with
    | (w, some r) => advance t w true (next r)
    | (w, none) => (w, moved, .ask a next)

/-- A task goes on through the rounds of its job. -/
def turn (t : TaskId) :
    (budget : Nat) → World → Bool → Task Ending → Option (World × Bool × Progress)
  | 0, _, _, _ => none
  | budget + 1, w, moved, task =>
    match advance t w moved task with
    | (w, _, .done (.over o)) => some (w, true, .finished o)
    | (w, _, .done (.become job)) => turn t budget w true job.round
    | (w, moved, task) => some (w, moved, .running task)

/-- Starts a job. -/
def start (job : Job) (s : Schedule) : Schedule × TaskId :=
  ({ s with tasks := s.tasks ++ [(s.next, .running job.round)], next := s.next + 1 }, s.next)

/-- Starts the jobs that tasks have asked for. -/
def startSpawned (s : Schedule) : Schedule :=
  s.world.spawned.foldl (fun s job => (s.start job).1)
    { s with world := { s.world with spawned := [] } }

/-- One task has its turn; whether it got any further. -/
def step (budget : Nat) (s : Schedule) (t : TaskId) : Option (Schedule × Bool) :=
  match s.tasks.lookup t with
  | some (.running task) => do
    let (world, moved, progress) ← turn t budget s.world false task
    let tasks := s.tasks.map fun (id, p) => if id = t then (id, progress) else (id, p)
    return ({ s with world, tasks }.startSpawned, moved)
  | _ => some (s, false)

/-- Some tasks have a turn, one after the other; whether any got further. -/
def pass (budget : Nat) : List TaskId → Schedule → Option (Schedule × Bool)
  | [], s => some (s, false)
  | t :: ts, s => do
    let (s, moved) ← step budget s t
    let (s, later) ← pass budget ts s
    return (s, moved || later)

/-- Every task has a turn, over and over, until every task waits. -/
def settle : (budget : Nat) → Schedule → Option Schedule
  | 0, _ => none
  | budget + 1, s => do
    let (s, moved) ← pass budget (s.tasks.map Prod.fst) s
    if moved then settle budget s else some s

/-- Until when a task waits at most. -/
def patience : Progress → Option Instant
  | .running (.ask a _) => World.patience a
  | _ => none

/-- The first time that a task waits for. -/
def nextTime (s : Schedule) : Option Instant := (s.tasks.filterMap (patience ·.2)).min?

/-- The outcome of a task that is finished. -/
def outcome? (s : Schedule) (t : TaskId) : Option Outcome :=
  match s.tasks.lookup t with
  | some (.finished o) => some o
  | _ => none

/-- The schedule without a task. -/
def remove (s : Schedule) (t : TaskId) : Schedule := { s with tasks := s.tasks.filter (·.1 ≠ t) }

/-- A task that waited for bytes no longer than until now. -/
def expire (now : Instant) : Progress → Progress
  | .running (.ask (.receive h n (some limit)) next) =>
    .running (if limit ≤ now then next .late else .ask (.receive h n (some limit)) next)
  | p => p

/-- The schedule at a time that has come while every task waits. -/
def moveClock (s : Schedule) (now : Instant) : Schedule :=
  { s with
    world := { s.world with now }
    tasks := s.tasks.map fun (id, p) => (id, expire now p) }

/-- Lets time pass until a task is finished or the limit comes. -/
def await (t : TaskId) (limit : Instant) :
    (budget : Nat) → Schedule → Option (Schedule × Option Outcome)
  | 0, _ => none
  | budget + 1, s => do
    let s ← s.settle budget
    match s.outcome? t, s.nextTime with
    | some o, _ => some (s.remove t, some o)
    | none, some time =>
      if time ≤ limit then await t limit budget (s.moveClock time)
      else some (s.moveClock limit, none)
    | none, none => some (s.moveClock limit, none)

/-- The schedule without a task that is given up, once every task waits. -/
def giveUp (budget : Nat) (s : Schedule) (t : TaskId) : Option Schedule :=
  ({ s with world := s.world.abandon t }.remove t).settle budget

end Schedule

end DeviceRpc
