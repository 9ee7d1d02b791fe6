import DeviceRpc.Proofs.Binary64.Rounding
import DeviceRpc.Proofs.Device.PlantHost
import DeviceRpc.Proofs.Device.Waiting
import DeviceRpc.Proofs.Dispatch.Decision
import DeviceRpc.Proofs.World.Scheduler

/-!
# Registration

A request to register with an object is dispatched by inspecting the object. If that succeeds, the
reply is made at once, and if not, of a wait for its health that starts then
(`Service.dispatch_register`). A run of the task is followed through the inspection (`Runs.doing`),
whatever the object asks to be inspected, and then through the wait, so what is known of waits is
known of registrations (`waits_until_healthy`).
-/

namespace DeviceRpc

open Prog (Goes)

variable {ω β : Type}

/-- What registration comes to once its own inspection is through. -/
def Service.registered [Monitored ω] (o : ω) (p : Packet) : Except ErrorCode Unit → Task Packet
  | .ok () => return { p with errorCode := 0 }
  | .error _ => do
    return reply (p, ← Health.waitSeconds (Monitored.monitor o) (p.f64 .first))

/-- A request that reaches registration is dispatched by inspecting the object. -/
theorem Service.dispatch_register [Monitored ω] {service : Service ω} {registry : Registry ω}
    {p : Packet} {o : ω} {index : UInt16}
    (decided : Decides service registry p (.runs CommandTable.register o index)) :
    service.dispatch registry p = Monitored.inspect o >>= registered o { p with index } := by
  rw [dispatch_eq_answer, verdict_of_decides decided, Verdict.answer, CommandTable.register,
    bind_assoc]
  congr 1
  funext inspected
  cases inspected with
  | ok => rfl
  | error code =>
    show (Health.waitSeconds _ _ >>= _) >>= _ = Health.waitSeconds _ _ >>= _
    rw [bind_assoc]
    congr 1
    funext waited
    cases waited <;> rfl

namespace Schedule

variable {m : MonitorId} {k : TaskId} {s s' s'' : Schedule} {cs : List (Instant × Bool)}
  {who : Option TaskId}

/-- A task that does one thing before another is still busy with it, or came to the end of it, or
was given up. -/
inductive Doing (m : MonitorId) (k : TaskId) (p : Task β) (g : β → Task Ending) (s : Schedule)
    (cs : List (Instant × Bool)) (s' : Schedule) : Prop where
  | busy {acts : List (Prog.Exchange Act.Reply)} {a : Act} {next : a.Reply → Task β}
      (goes : Goes p acts (.ask a next)) (here : s'.At k (.ask a next >>= g))
  | through (ended : Via m s cs s' fun _ mid => ∃ acts b, Prog.Runs p acts b ∧ mid.At k (g b))
  | gone (left : Via m s cs s' fun _ mid => mid.tasks.lookup k = none)

theorem Doing.of_goes {p q : Task β} {g : β → Task Ending} {acts : List (Prog.Exchange Act.Reply)}
    (run : Runs m s cs s') (goes : Goes p acts q) (here : s'.At k (q >>= g)) :
    Doing m k p g s cs s' := by
  cases q with
  | ask a next => exact .busy goes here
  | done b => exact .through (.here run ⟨acts, b, goes.runs, here⟩)

theorem Runs.doing {p : Task β} {g : β → Task Ending} (run : Runs m s cs s')
    (here : s.At k (p >>= g)) : Doing m k p g s cs s' := by
  induction run with
  | refl => exact .of_goes .refl .refl here
  | step before move calm ih =>
    have run := before.step move calm
    cases ih with
    | busy goes here =>
      rw [Prog.ask_bind] at here
      cases move.sees here with
      | rests after => exact .busy goes after
      | goes asks answered after =>
        cases asks
        exact .of_goes run (goes.concat _) after
      | late waits after =>
        cases waits
        exact .of_goes run (goes.concat _) after
      | ends done => cases done
      | gone nobody => exact .gone (.here run nobody)
    | through ended => exact .through (ended.step move calm)
    | gone left => exact .gone (left.step move calm)

/-- What has come of a registration. -/
inductive Registered [Monitored ω] (k : TaskId) (o : ω) (p : Packet) (f : Packet → Task Ending)
    (s : Schedule) (cs : List (Instant × Bool)) (s' : Schedule) : Prop where
  /-- The object is being inspected. -/
  | inspecting {acts : List (Prog.Exchange Act.Reply)} {a : Act}
      {next : a.Reply → Task (Except ErrorCode Unit)}
      (goes : Goes (Monitored.inspect o) acts (.ask a next))
      (here : s'.At k (.ask a next >>= fun r => Service.registered o p r >>= f))
  /-- The inspection succeeded, and at once the reply was there. -/
  | succeeded (answered : Via (Monitored.monitor o) s cs s' fun _ mid =>
      (∃ acts, Prog.Runs (Monitored.inspect o) acts (.ok ())) ∧
        mid.At k (f { p with errorCode := 0 }))
  /-- The inspection failed, and a wait was started that makes the reply. -/
  | failed {before after : List (Instant × Bool)} {mid : Schedule} {code : ErrorCode}
      (split : cs = before ++ after) (first : Runs (Monitored.monitor o) s before mid)
      (second : Runs (Monitored.monitor o) mid after s')
      (inspected : ∃ acts, Prog.Runs (Monitored.inspect o) acts (.error code))
      (waited : Waited (Monitored.monitor o) k (p.f64 .first).nanoseconds?
        (fun r => f (Service.reply (p, r))) mid after s')
  | gone (left : Via (Monitored.monitor o) s cs s' fun _ mid => mid.tasks.lookup k = none)

theorem Runs.registered [Monitored ω] {o : ω} {p : Packet} {f : Packet → Task Ending}
    (run : Runs (Monitored.monitor o) s cs s')
    (here : s.At k ((Monitored.inspect o >>= Service.registered o p) >>= f)) :
    Registered k o p f s cs s' := by
  rw [bind_assoc] at here
  cases run.doing here with
  | busy goes here => exact .inspecting goes here
  | gone left => exact .gone left
  | through ended =>
    obtain ⟨split, first, second, acts, inspected, runs, here⟩ := ended
    cases inspected with
    | ok => exact .succeeded ⟨split, first, second, ⟨acts, runs⟩, here⟩
    | error code =>
      rw [Service.registered, bind_assoc] at here
      exact .failed split first second ⟨acts, runs⟩ (second.waited here)

/-- **Waiting for health.** In a run with any number of tasks, a wait is over at the time at which
it is due, with the outcome that is due then: success at once if the object is healthy at the start;
else success when it becomes healthy, if that is before the limit; else a timeout at the limit, and
without a limit never. A registration is answered with success as soon as its own inspection has
succeeded, and else as such a wait ends that starts when the inspection has failed, for as long as
the request says. To wait changes nothing for anybody else, changes for the worse make no difference
to a wait, and the numbers of seconds that limit a wait are those that are a time. -/
theorem waits_until_healthy (m : MonitorId) {s s' : Schedule} {cs : List (Instant × Bool)}
    (run : Runs m s cs s') (k : TaskId) :
    (∀ ns f, s.At k (Health.wait m ns >>= f) → Waited m k ns f s cs s') ∧
    (∀ {ω : Type} [Monitored ω] (service : Service ω) (registry : Registry ω) (p : Packet) (o : ω)
      (index : UInt16) (f : Packet → Task Ending), Monitored.monitor o = m →
      Decides service registry p (.runs CommandTable.register o index) →
      s.At k (service.dispatch registry p >>= f) →
        Registered k o { p with index } f s cs s') ∧
    (∀ ns, Asks (fun a => ∀ w t, (World.answer w t a).1 = w) (Health.wait m ns)) ∧
    (∀ start healthy limit, Health.due start healthy limit (cs.filter (·.2)) =
      Health.due start healthy limit cs) ∧
    (∀ (x : Binary64) ns, x.nanoseconds? = some ns ↔ x.IsTime ns) := by
  refine ⟨fun ns f => run.waited, ?_, Health.wait_looks m, fun _ _ _ => Health.due_filter ..,
    fun _ _ => Binary64.nanoseconds?_eq_some_iff⟩
  rintro ω _ service registry p o index f rfl decided here
  rw [Service.dispatch_register decided] at here
  exact run.registered here

namespace Recovery

/-- A unit that is out of order, and a monitor for it. -/
def broken : World where
  plant := { devices := [.strip { outlets := [("pump", false)], fault := some .deviceMalfunction }]
             health := [false] }

/-- The unit. -/
def unit : Object := ⟨.device 0, 0⟩

/-- A request to wait until the unit is healthy, as long as that takes. -/
def request : Packet :=
  { Packet.empty with protocol := Protocol.system, command := Protocol.register, index := 1 }

/-- A world in which this is the only task. -/
def alone (w : World) (p : Task Ending) : Schedule := { world := w, tasks := [(0, .running p)] }

theorem alone_goes {w w' : World} {a : Act} {next : a.Reply → Task Ending} {r : a.Reply}
    (answered : w.answer 0 a = (w', some r)) :
    Move (alone w (.ask a next)) (some 0) (alone w' (next r)) :=
  single_goes answered

theorem alone_rests {w : World} {a : Act} {next : a.Reply → Task Ending}
    (unanswered : (w.answer 0 a).2 = none) (who : Option TaskId) :
    (alone w (.ask a next)).AllRestBut who :=
  single_rests unanswered who

/-- What a task does with the reply. -/
def answered (q : Packet) : Task Ending := .done (.over (.reply q))

theorem decided : Decides Pdu.service Plant.oneUnit request
    (.runs CommandTable.register unit 1) := by
  have usable : request.index = 0 → ¬ TakesIndexOnly request.command := fun unset => by cases unset
  have there : Plant.oneUnit.At 1 "unit" unit := ⟨0, rfl, rfl⟩
  exact .reaches (.inr rfl) rfl usable (.given (by decide)) there

/-- The unit once it is in order, half a second later. -/
def mended : World :=
  { broken with now := 500, plant.health := [true] }

/-- What the task does once the inspection is through, and what once the wait is over. -/
def afterwards (inspected : Except ErrorCode Unit) : Task Ending :=
  Service.registered unit request inspected >>= answered

def replies (waited : Except ErrorCode Unit) : Task Ending :=
  answered (Service.reply (request, waited))

theorem afterwards_failure (code : ErrorCode) :
    afterwards (.error code) = Health.look 0 none >>= replies := by
  have untimed : (request.f64 .first).nanoseconds? = none := by decide
  show (Health.wait 0 (request.f64 .first).nanoseconds? >>= _) >>= _ = _
  rw [untimed, bind_assoc]
  rfl

/-- The inspection fails. -/
theorem fails : Runs 0 (alone broken (Pdu.service.dispatch Plant.oneUnit request >>= answered)) []
    (alone broken (Health.wait 0 none >>= replies)) := by
  rw [Service.dispatch_register decided, bind_assoc]
  have parts : Move (alone broken (Monitored.inspect unit >>= afterwards))
      (some 0) (alone broken (Health.inspect 0 [ask (.command 0 (.probe 0))] >>= afterwards)) :=
    alone_goes (a := .parts 0) (r := 1) rfl
  have probe : Move (alone broken (Health.inspect 0 [ask (.command 0 (.probe 0))] >>= afterwards))
      (some 0) (alone broken (ask (.setHealth 0 false) >>= fun _ =>
        afterwards (.error .deviceMalfunction))) :=
    alone_goes (a := .command 0 (.probe 0)) (r := .error .deviceMalfunction) rfl
  have records : Move (alone broken (ask (.setHealth 0 false) >>= fun _ =>
        afterwards (.error .deviceMalfunction)))
      (some 0) (alone broken (afterwards (.error .deviceMalfunction))) :=
    alone_goes (a := .setHealth 0 false) (r := ()) rfl
  have run : Runs 0 (alone broken (Monitored.inspect unit >>= afterwards)) []
      (alone broken (afterwards (.error .deviceMalfunction))) :=
    ((Runs.refl.step parts (absurd rfl ·)).step probe (absurd rfl ·)).step records (absurd rfl ·)
  rw [afterwards_failure] at run
  exact run

/-- Half a second later the unit is in order, and the request is answered. -/
theorem recovers : Runs 0 (alone broken (Health.wait 0 none >>= replies)) [(500, true)]
    (alone mended (answered request)) := by
  have rest (now : Instant) (who : Option TaskId) :
      (alone { broken with now } (Health.look 0 none >>= replies)).AllRestBut who :=
    alone_rests rfl who
  have tick : Move (alone broken (Health.look 0 none >>= replies)) none
      (alone { broken with now := 500 } (Health.look 0 none >>= replies)) :=
    .ticks (moveClock_ticks 500 (rest 0 none) (by decide) nofun)
  have mends : Move (alone { broken with now := 500 } (Health.look 0 none >>= replies)) none
      (alone mended (Health.look 0 none >>= replies)) := .outside rfl fun _ _ here => here
  have looks : Move (alone mended (Health.look 0 none >>= replies)) (some 0)
      (alone mended (answered request)) :=
    alone_goes (a := .awaitHealthy 0 none) (r := true) rfl
  exact ((Runs.refl.step tick (absurd rfl ·)).step mends fun _ => rest 500 none).step looks
    (absurd rfl ·)

/-- The request is answered half a second after the inspection has failed. -/
theorem waits_until_healthy_mended :
    Registered 0 unit request answered
      (alone broken (Pdu.service.dispatch Plant.oneUnit request >>= answered)) [(500, true)]
      (alone mended (answered request)) ∧
    Waited 0 0 none replies (alone broken (Health.wait 0 none >>= replies)) [(500, true)]
      (alone mended (answered request)) := by
  obtain ⟨waits, -⟩ := waits_until_healthy 0 recovers 0
  obtain ⟨-, registers, -⟩ := waits_until_healthy 0 (fails.trans recovers) 0
  exact ⟨registers _ _ _ _ _ _ rfl decided rfl, waits none replies rfl⟩

end Recovery

end Schedule

end DeviceRpc
