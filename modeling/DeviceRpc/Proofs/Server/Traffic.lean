import DeviceRpc.Proofs.Metrics.Totals
import DeviceRpc.Proofs.Server.Course

/-!
# The metrics of a server

A server has any number of connections at once. Each is served by a task of its own, the tasks take
turns in any order, and what they ask is answered in any way: with any bytes, with failures of
reading and of writing, with anything from the devices (`Traffic.Step`). All of them record into the
same metrics.

**Conserved.** Whenever every task waits, the metrics are what the courses of the connections add up
to (`Traffic.conserved`): the connections that are open, the requests that were dispatched, those of
them that were answered with the code for another protocol or for an unknown command, and the
connections that met a failure. Each journal holds just the events that its course tells of
(`Course.recorded`), so nothing is counted twice and nothing is missed, whichever way a connection
ends.
-/

namespace DeviceRpc

open Prog (Goes Runs)
open NodeMetrics (Event sum eventsOf mismatchNumber unknownNumber)

/-! ## What is recorded -/

namespace Journal

/-- The events that were recorded. -/
def recorded (j : Journal) : List Event :=
  j.filterMap fun x => match x.1 with
    | .record _ e => some e
    | _ => none

theorem recorded_append (j j' : Journal) : recorded (j ++ j') = j.recorded ++ j'.recorded :=
  List.filterMap_append

/-- Nothing is recorded without an act that records. -/
theorem recorded_eq_nil {j : Journal} (none : ∀ x ∈ j, ∀ node e, x.1 ≠ .record node e) :
    j.recorded = [] := by
  refine List.filterMap_eq_nil_iff.mpr fun x mem => ?_
  have none := none x mem
  obtain ⟨a, r⟩ := x
  cases a with
  | record node e => exact absurd rfl (none node e)
  | _ => rfl

end Journal

/-- Whatever is allowed as an answer, nothing outside of what an outward program asks was asked. -/
theorem Outward.foreign {α : Type} {P : α → Prop} {p q : Task α} {acts : Journal}
    (goes : Goes p acts q) (outward : Outward P p) (allowed : ∀ x ∈ acts, x.1.Allows x.2) :
    ∀ x ∈ acts, ¬ x.1.IsServing := by
  induction goes with
  | refl => exact fun _ mem => nomatch mem
  | ask answer _ ih =>
    obtain ⟨foreign, go⟩ := outward
    have here := allowed _ (List.mem_cons_self ..)
    intro x mem
    rcases List.mem_cons.mp mem with rfl | mem
    · exact foreign
    · exact ih (go answer () here) (fun x mem => allowed x (List.mem_cons_of_mem _ mem)) x mem

theorem Channel.readHeader_drives {H : Handle → Prop} {ch : Channel} (own : H ch.handle) :
    Drives H (fun _ => True) ch.readHeader := by
  refine .bind (receiveExactly_drives own none (fun _ => .done trivial) 1 []) fun r _ => ?_
  obtain ⟨first, failure⟩ := r
  cases failure with
  | some e => exact .done trivial
  | none =>
    refine .bind (transfer_drives own _ fun _ => .done trivial) fun r _ => ?_
    obtain ⟨rest, failure⟩ := r
    cases failure <;> exact .done trivial

namespace Server

/-! ## What a course records -/

/-- The event of a request, but for the time that it took. -/
def Answered.event (d : Answered) : Event := .dispatched d.request.command d.reply.errorCode 0

namespace Moment

/-- The failure that was counted. -/
def failure : Moment → Option LinkFailure
  | refusing n => some (.tooLarge n)
  | ending why | parting why | gone why => why
  | _ => none

/-- The connection is over. -/
def isGone : Moment → Bool
  | gone _ => true
  | _ => false

/-- The connection was counted among the open ones. -/
def begun : Moment → List Event
  | accepted => []
  | _ => [.connectionOpened]

/-- The connection is not counted any more. -/
def closed : Moment → List Event
  | parting _ | gone _ => [.connectionClosed]
  | _ => []

/-- The requests that were counted: all but one that has only just been dispatched. -/
def counted (answered : List Answered) : Moment → List Answered
  | returned | measured => answered.dropLast
  | _ => answered

/-- Everything that was recorded until this moment. -/
def events (answered : List Answered) (m : Moment) : List Event :=
  m.begun ++ (m.counted answered).map Answered.event
    ++ m.failure.toList.map (fun _ => .linkFailed "") ++ m.closed

theorem events_stopped (answered : List Answered) (e : LinkFailure) :
    (stopped e).events answered = idle.events answered := by
  cases e <;> rfl

end Moment

/-- Everything that was recorded on a connection, but for times and kinds of failures. -/
def Story.events (s : Story) : List Event := s.moment.events s.answered

/-- The event but for the time that a request took and the kind of a failure. -/
def plain : Event → Event
  | .dispatched command code _ => .dispatched command code 0
  | .linkFailed _ => .linkFailed ""
  | e => e

theorem recorded_more {j acts : Journal} {s s' : Story} (h : j.recorded.map plain = s.events)
    (more : s'.events = s.events ++ acts.recorded.map plain) :
    (Journal.recorded (j ++ acts)).map plain = s'.events := by
  rw [Journal.recorded_append, List.map_append, h, more]

theorem recorded_same {j acts : Journal} {s s' : Story} (h : j.recorded.map plain = s.events)
    (none : acts.recorded = []) (same : s'.events = s.events) :
    (Journal.recorded (j ++ acts)).map plain = s'.events :=
  recorded_more h (by rw [none, same]; exact (List.append_nil _).symm)

/-- Nothing is recorded while the connection is read from. -/
theorem reading_recorded_eq_nil {α : Type} {p q : Task α} {acts : Journal}
    (drives : Drives (fun _ => True) (fun _ => True) p) (goes : Goes p acts q) :
    acts.recorded = [] :=
  Journal.recorded_eq_nil fun x mem node e same => by
    have driving := goes.asked drives.gives.asks x mem
    rw [same] at driving
    exact driving

/-- Nor is anything while a request is dispatched. -/
theorem dispatch_recorded_eq_nil {registry : Registry Object} {request : Packet} {q : Task Packet}
    {acts : Journal} (goes : Goes (Pdu.service.dispatch registry request) acts q)
    (allowed : ∀ x ∈ acts, x.1.Allows x.2) : acts.recorded = [] :=
  Journal.recorded_eq_nil fun x mem node e same => by
    have foreign := Outward.foreign goes (Pdu.dispatch_outward registry request) allowed x mem
    rw [same] at foreign
    exact foreign trivial

/-- **What is recorded on a connection** is what its course tells of. -/
theorem Course.recorded {node : NodeId} {ch : Channel} {j : Journal} {s : Story}
    (h : Course node ch j s) (allowed : ∀ x ∈ j, x.1.Allows x.2) :
    j.recorded.map plain = s.events := by
  have part {j acts : Journal} (allowed : ∀ x ∈ j ++ acts, x.1.Allows x.2) :
      (∀ x ∈ j, x.1.Allows x.2) ∧ ∀ x ∈ acts, x.1.Allows x.2 :=
    List.forall_mem_append.mp allowed
  have header : Drives (fun _ => True) (fun _ => True) ch.readHeader :=
    Channel.readHeader_drives trivial
  have payload (n : Nat) : Drives (fun _ => True) (fun _ => True) (ch.transfer n) :=
    Channel.transfer_drives trivial n fun _ => .done trivial
  induction h with
  | accepted | opened => rfl
  | heading _ idle goes ih =>
    refine recorded_same (ih (part allowed).1) (reading_recorded_eq_nil header goes) ?_
    rw [Story.events, Story.events, idle]
    rfl
  | unheard _ idle runs ih =>
    refine recorded_same (ih (part allowed).1) (reading_recorded_eq_nil header runs.goes) ?_
    rw [Story.events, Story.events, idle]
    exact Moment.events_stopped ..
  | bare _ idle runs _ ih | oversize _ idle runs _ ih | announced _ idle runs _ _ ih =>
    refine recorded_same (ih (part allowed).1) (reading_recorded_eq_nil header runs.goes) ?_
    rw [Story.events, Story.events, idle]
    rfl
  | receiving _ room goes ih =>
    refine recorded_same (ih (part allowed).1) (reading_recorded_eq_nil (payload _) goes) ?_
    rw [Story.events, Story.events, room]
    rfl
  | filled _ room runs ih =>
    refine recorded_same (ih (part allowed).1) (reading_recorded_eq_nil (payload _) runs.goes) ?_
    rw [Story.events, Story.events, room]
    rfl
  | unfilled _ room runs ih =>
    refine recorded_same (ih (part allowed).1) (reading_recorded_eq_nil (payload _) runs.goes) ?_
    rw [Story.events, Story.events, room]
    exact Moment.events_stopped ..
  | started _ before _ ih | offered _ before _ _ ih | measured _ before _ ih
  | replied _ before ih | unsent _ before _ ih | refused _ before _ ih =>
    refine recorded_same (ih (part allowed).1) rfl ?_
    rw [Story.events, Story.events, before]
    rfl
  | dispatching _ offered goes ih =>
    refine recorded_same (ih (part allowed).1) (dispatch_recorded_eq_nil goes (part allowed).2) ?_
    rw [Story.events, Story.events, offered]
    rfl
  | @returned j acts s registry reply _ offered runs ih =>
    refine recorded_same (ih (part allowed).1)
      (dispatch_recorded_eq_nil runs.goes (part allowed).2) ?_
    rw [Story.events, Story.events, offered]
    show Moment.events (s.answered ++ [⟨s.envelope, reply⟩]) .returned = _
    simp only [Moment.events, Moment.counted, List.dropLast_concat]
    rfl
  | @counted j s past d _ measured last took ih =>
    refine recorded_more (ih (part allowed).1) ?_
    rw [Story.events, Story.events, measured]
    show Moment.events s.answered .replying = _
    rw [last]
    simp [Moment.events, Moment.begun, Moment.counted, Moment.failure, Moment.closed,
      Journal.recorded, plain, Answered.event]
  | refusing _ before ih | failed _ before ih | parting _ before ih =>
    refine recorded_more (ih (part allowed).1) ?_
    rw [Story.events, Story.events, before]
    simp [Story.moved, Story.turned, Moment.events, Moment.begun, Moment.counted, Moment.failure,
      Moment.closed, Journal.recorded, plain]
  | gone _ parting ih =>
    refine recorded_same (ih (part allowed).1) rfl ?_
    rw [Story.events, Story.events, parting]
    rfl

/-! ## Adding up -/

section

variable {adds : Event → Int}

theorem adds_plain (c : NodeMetrics.Counter) (e : Event) : (plain e).adds c = e.adds c := by
  cases e <;> cases c <;> rfl

theorem opens_plain (e : Event) : (plain e).opens = e.opens := by
  cases e <;> rfl

/-- What the events of a connection add up to wherever it may have to wait. -/
theorem sum_events (adds : Event → Int) {s : Story} (waits : ¬ s.moment.Passing) :
    sum adds s.events = adds .connectionOpened + sum adds (s.answered.map Answered.event)
      + (if s.moment.failure.isSome then adds (.linkFailed "") else 0)
      + if s.moment.isGone then adds .connectionClosed else 0 := by
  rw [Story.events, Moment.events]
  simp only [NodeMetrics.sum_append]
  cases moment : s.moment with
  | gone why =>
    cases why <;>
      simp [Moment.begun, Moment.counted, Moment.failure, Moment.closed, Moment.isGone, sum]
  | idle | heading | announced | receiving | offered | dispatching | replying | refusing =>
    simp [Moment.begun, Moment.counted, Moment.failure, Moment.closed, Moment.isGone, sum]
  | _ =>
    rw [moment] at waits
    exact absurd trivial waits

/-- Requests that each add one or nothing. -/
theorem sum_requests {p : Answered → Bool} (each : ∀ d, adds d.event = if p d then 1 else 0) :
    ∀ answered : List Answered, sum adds (answered.map Answered.event) = answered.countP p
  | [] => rfl
  | d :: answered => by
    rw [List.map_cons, sum, each, sum_requests each answered, List.countP_cons]
    split <;> omega

/-- What each connection adds is added up. -/
theorem sum_stories (each : Story → Int) (all : List Story → Int) (start : all [] = 0)
    (more : ∀ s stories, all (s :: stories) = each s + all stories) :
    ∀ {stories : List Story}, (∀ s ∈ stories, sum adds s.events = each s) →
      sum adds (stories.flatMap Story.events) = all stories
  | [], _ => start.symm
  | s :: stories, here => by
    rw [List.flatMap_cons, NodeMetrics.sum_append, here s (List.mem_cons_self ..),
      sum_stories each all start more fun s mem => here s (List.mem_cons_of_mem _ mem), more]

/-- The requests of all connections, where nothing else adds anything. -/
theorem sum_answered {p : Answered → Bool} (each : ∀ d, adds d.event = if p d then 1 else 0)
    (opened : adds .connectionOpened = 0) (closed : adds .connectionClosed = 0)
    (failed : adds (.linkFailed "") = 0) {stories : List Story}
    (waits : ∀ s ∈ stories, ¬ s.moment.Passing) :
    sum adds (stories.flatMap Story.events) = (stories.flatMap Story.answered).countP p := by
  refine sum_stories (fun s => s.answered.countP p)
    (fun stories => (stories.flatMap Story.answered).countP p) rfl ?_ fun s mem => ?_
  · intro s stories
    rw [List.flatMap_cons, List.countP_append]
    exact Int.natCast_add ..
  · rw [sum_events adds (waits s mem), sum_requests each, opened, closed, failed]
    simp

/-- The connections of some kind, where just these add one. -/
theorem sum_connections {p : Story → Bool} {stories : List Story}
    (each : ∀ s ∈ stories, sum adds s.events = if p s then 1 else 0) :
    sum adds (stories.flatMap Story.events) = stories.countP p := by
  refine sum_stories (fun s => if p s then 1 else 0) (fun stories => stories.countP p) rfl ?_ each
  intro s stories
  rw [List.countP_cons]
  split <;> omega

end

/-! ## Connections that are served at once -/

namespace Serving

/-- Nothing is left to do. -/
def isEnded (c : Serving) : Bool :=
  match c.task with
  | .done (.over _) => true
  | _ => false

/-- Nothing is left to do, or nothing can be done at once. -/
def Waits (c : Serving) : Prop :=
  match c.task with
  | .done (.over _) => True
  | .done (.become _) => False
  | .ask a _ => ¬ a.Prompt

/-- The connection is told by this story. -/
structure Tells (node : NodeId) (c : Serving) (s : Story) : Prop where
  course : Course node c.channel c.journal s
  waits : ¬ s.moment.Passing
  ended : c.isEnded = s.moment.isGone

/-- A connection that waits has a story. -/
theorem Kept.tells {node : NodeId} {c : Serving} (h : c.Kept node) (waits : c.Waits) :
    ∃ s, c.Tells node s := by
  obtain ⟨ch, task, j⟩ := c
  have course : Keeps Journal.Grows (Asked node ch) (Rested node ch) task j := h.course
  cases task with
  | ask a next =>
    obtain ⟨s, course, prompt, here⟩ := course.1
    refine ⟨s, course, fun passing => waits (prompt passing), ?_⟩
    cases moment : s.moment with
    | gone why => exact absurd moment (here why)
    | _ => rfl
  | done e =>
    rcases course with ⟨s, -, -, rfl⟩ | ⟨s, why, course, gone, rfl⟩
    · exact waits.elim
    · refine ⟨s, course, ?_, ?_⟩ <;> rw [gone]
      · exact id
      · rfl

end Serving

/-- The connections of a node and what was recorded. -/
structure Traffic where
  connections : List Serving := []
  log : NodeMetrics.Log := []

namespace Traffic

/-- The metrics of the node. -/
def metrics (t : Traffic) : NodeMetrics := ({} : NodeMetrics).after t.log

/-- What may happen on a node: a connection is accepted, an act is answered, another service
records something. -/
inductive Step (node : NodeId) : Traffic → Traffic → Prop where
  | accepts (t : Traffic) (ch : Channel) :
      Step node t { t with connections := t.connections ++ [.accepted node ch] }
  | answers {before after : List Serving} {c : Serving} {log : NodeMetrics.Log} {a : Act}
      {next : a.Reply → Task Ending} (asks : c.task = .ask a next) (r : a.Reply)
      (allowed : a.Allows r) :
      Step node ⟨before ++ c :: after, log⟩
        ⟨before ++ c.answered a r (next r) :: after,
          log ++ (Journal.recorded [⟨a, r⟩]).map (ServiceKind.pdu.name, ·)⟩
  | others (t : Traffic) {service : String} (other : service ≠ ServiceKind.pdu.name) (e : Event) :
      Step node t { t with log := t.log ++ [(service, e)] }

/-- What can come about. -/
inductive Reached (node : NodeId) : Traffic → Prop where
  | start : Reached node {}
  | step {t t' : Traffic} (h : Reached node t) (step : Step node t t') : Reached node t'

/-- Every task waits. -/
def Waits (t : Traffic) : Prop := ∀ c ∈ t.connections, c.Waits

/-- These stories tell of the connections. -/
def Tells (node : NodeId) (t : Traffic) (stories : List Story) : Prop :=
  List.Forall₂ (fun c s => c.Tells node s) t.connections stories

/-- What the metrics of the service add up to. -/
structure Conserved (t : Traffic) (stories : List Story) : Prop where
  /-- The gauge has the connections that have not ended. -/
  active : t.metrics.activeConnections.total (Metrics.ofService ServiceKind.pdu.name) Int64.toInt
    = t.connections.countP fun c => !c.isEnded
  /-- Requests are counted once their dispatch has returned. -/
  requests : t.metrics.requests.total (Metrics.ofService ServiceKind.pdu.name) (·.toNat)
    = (stories.flatMap Story.answered).length
  durations : t.metrics.dispatchDuration.total (Metrics.ofService ServiceKind.pdu.name)
    (·.count.toNat) = (stories.flatMap Story.answered).length
  mismatches : t.metrics.protocolMismatches.total (Metrics.ofService ServiceKind.pdu.name) (·.toNat)
    = (stories.flatMap Story.answered).countP (·.reply.errorCode = mismatchNumber)
  unknown : t.metrics.unknownCommands.total (Metrics.ofService ServiceKind.pdu.name) (·.toNat)
    = (stories.flatMap Story.answered).countP (·.reply.errorCode = unknownNumber)
  /-- A connection that met a failure counts once. -/
  failures : t.metrics.linkErrors.total (Metrics.ofService ServiceKind.pdu.name) (·.toNat)
    = stories.countP (·.moment.failure.isSome)

/-- What is true of everything that comes about. -/
structure Kept (node : NodeId) (t : Traffic) : Prop where
  each : ∀ c ∈ t.connections, c.Kept node
  /-- The log holds what the journals hold. -/
  events : (eventsOf ServiceKind.pdu.name t.log).Perm (t.connections.flatMap (·.journal.recorded))

variable {node : NodeId} {t t' : Traffic}

theorem eventsOf_append (service : String) (log log' : NodeMetrics.Log) :
    eventsOf service (log ++ log') = eventsOf service log ++ eventsOf service log' :=
  List.filterMap_append

theorem eventsOf_own (service : String) (events : List Event) :
    eventsOf service (events.map (service, ·)) = events := by
  induction events with
  | nil => rfl
  | cons e events ih =>
    rw [List.map_cons, eventsOf, List.filterMap_cons, if_pos rfl]
    exact congrArg (e :: ·) ih

theorem kept_step (h : t.Kept node) (step : Step node t t') : t'.Kept node := by
  cases step with
  | accepts _ ch =>
    refine ⟨?_, ?_⟩
    · intro c mem
      rcases List.mem_append.mp mem with mem | mem
      · exact h.each c mem
      · obtain rfl := List.mem_singleton.mp mem
        exact .accepted node ch
    · show List.Perm _ ((t.connections ++ [_]).flatMap _)
      rw [List.flatMap_append]
      exact h.events.trans (.of_eq (List.append_nil _).symm)
  | others _ other e =>
    refine ⟨h.each, ?_⟩
    show List.Perm (eventsOf _ (t.log ++ [_])) _
    rw [eventsOf_append]
    have none : eventsOf ServiceKind.pdu.name [(_, e)] = [] :=
      List.filterMap_eq_nil_iff.mpr fun x mem => by
        obtain rfl := List.mem_singleton.mp mem
        exact if_neg other
    rw [none, List.append_nil]
    exact h.events
  | @answers before after c log a next asks r allowed =>
    refine ⟨?_, ?_⟩
    · intro d mem
      rcases List.mem_append.mp mem with mem | mem
      · exact h.each d (List.mem_append_left _ mem)
      · rcases List.mem_cons.mp mem with rfl | mem
        · exact (h.each c (List.mem_append_right _ (List.mem_cons_self ..))).answered asks allowed
        · exact h.each d (List.mem_append_right _ (List.mem_cons_of_mem _ mem))
    · have events := h.events
      simp only [List.flatMap_append, List.flatMap_cons] at events ⊢
      rw [eventsOf_append, eventsOf_own]
      show List.Perm _ (_ ++ (Journal.recorded (c.journal ++ [⟨a, r⟩]) ++ _))
      rw [Journal.recorded_append]
      refine (events.append_right _).trans ?_
      simp only [List.append_assoc]
      exact ((List.perm_append_comm).append_left _).append_left _

theorem Reached.kept (h : Reached node t) : t.Kept node := by
  induction h with
  | start => exact ⟨(fun _ mem => nomatch mem), .nil⟩
  | step _ step ih => exact kept_step ih step

/-! ## Stories of all connections -/

section

variable {all : List Serving} {stories : List Story}

theorem exists_stories : ∀ {all : List Serving}, (∀ c ∈ all, ∃ s, Serving.Tells node c s) →
    ∃ stories, List.Forall₂ (fun c s => Serving.Tells node c s) all stories
  | [], _ => ⟨[], .nil⟩
  | _ :: _, each => by
    obtain ⟨s, tell⟩ := each _ (List.mem_cons_self ..)
    obtain ⟨stories, tells⟩ := exists_stories fun c mem => each c (List.mem_cons_of_mem _ mem)
    exact ⟨s :: stories, .cons tell tells⟩

variable (tells : List.Forall₂ (fun c s => Serving.Tells node c s) all stories)

include tells

theorem stories_wait : ∀ s ∈ stories, ¬ s.moment.Passing := by
  induction tells with
  | nil => exact fun _ mem => nomatch mem
  | cons tell _ ih => exact List.forall_mem_cons.mpr ⟨tell.waits, ih⟩

/-- The connections that have not ended. -/
theorem countP_ended :
    all.countP (fun c => !c.isEnded) = stories.countP fun s => !s.moment.isGone := by
  induction tells with
  | nil => rfl
  | cons tell _ ih => rw [List.countP_cons, List.countP_cons, ih, tell.ended]

/-- What the journals hold is what the stories tell. -/
theorem recorded_stories (each : ∀ c ∈ all, c.Kept node) :
    (all.flatMap (·.journal.recorded)).map plain = stories.flatMap Story.events := by
  induction tells with
  | nil => rfl
  | cons tell _ ih =>
    obtain ⟨here, each⟩ := List.forall_mem_cons.mp each
    rw [List.flatMap_cons, List.flatMap_cons, List.map_append, tell.course.recorded here.allowed,
      ih each]

end

/-! ## Conservation -/

/-- What a family of the service comes to. -/
theorem total_eq {α : Type} [Inhabited α] {f : α → Int} {family : NodeMetrics → Metrics.Family α}
    {adds : Event → Int} (follows : NodeMetrics.Follows f family adds) (empty : family {} = [])
    (same : ∀ e, adds (plain e) = adds e) {stories : List Story} (h : t.Kept node)
    (few : t.log.length < NodeMetrics.eventLimit) (tells : t.Tells node stories) :
    (family t.metrics).total (Metrics.ofService ServiceKind.pdu.name) f
      = sum adds (stories.flatMap Story.events) := by
  have within : (family {}).Within f 0 := by
    rw [empty]
    exact fun _ mem => nomatch mem
  calc (family t.metrics).total (Metrics.ofService ServiceKind.pdu.name) f
      = (family {}).total (Metrics.ofService ServiceKind.pdu.name) f
          + sum adds (eventsOf ServiceKind.pdu.name t.log) :=
        follows.total_after _ t.log within (by omega)
    _ = sum adds (eventsOf ServiceKind.pdu.name t.log) := by
        rw [empty]
        exact Int.zero_add _
    _ = sum adds (t.connections.flatMap (·.journal.recorded)) := NodeMetrics.sum_perm adds h.events
    _ = sum adds (stories.flatMap Story.events) := by
        rw [← recorded_stories tells h.each, NodeMetrics.sum_map adds same]

/-- Every family adds up. -/
theorem Kept.conserves (h : t.Kept node) (few : t.log.length < NodeMetrics.eventLimit)
    {stories : List Story} (tells : t.Tells node stories) : t.Conserved stories := by
  have waits := stories_wait tells
  have counter (c : NodeMetrics.Counter) := total_eq (NodeMetrics.follows_counter c)
    (by cases c <;> rfl) (adds_plain c) h few tells
  have requests : sum (Event.adds .requests) (stories.flatMap Story.events)
      = (stories.flatMap Story.answered).length := by
    rw [sum_answered (p := fun _ => true) (fun _ => rfl) rfl rfl rfl waits, List.countP_true]
  refine ⟨?_, (counter .requests).trans requests, ?_, ?_, ?_, ?_⟩
  · rw [countP_ended tells]
    refine (total_eq NodeMetrics.follows_active rfl opens_plain h few tells).trans ?_
    refine sum_connections fun s mem => ?_
    rw [sum_events _ (waits s mem), sum_requests (p := fun _ => false) fun _ => rfl]
    cases s.moment.isGone <;> simp [Event.opens]
  · exact (total_eq NodeMetrics.follows_duration rfl (adds_plain .requests) h few tells).trans
      requests
  · refine (counter .protocolMismatches).trans (sum_answered (fun d => ?_) rfl rfl rfl waits)
    by_cases code : d.reply.errorCode = mismatchNumber <;>
      simp [Event.adds, Event.details, Answered.event, code]
  · refine (counter .unknownCommands).trans (sum_answered (fun d => ?_) rfl rfl rfl waits)
    by_cases code : d.reply.errorCode = unknownNumber <;>
      simp [Event.adds, Event.details, Answered.event, code]
  · refine (counter .linkErrors).trans (sum_connections fun s mem => ?_)
    rw [sum_events _ (waits s mem), sum_requests (p := fun _ => false) fun _ => rfl]
    cases s.moment.isGone <;> simp [Event.adds, Event.details]

/-- **The metrics of a server are conserved**: as long as there are too few events for a number to
wrap around, they are what the connections tell whenever every task waits. The gauge has the
connections that have not ended, requests and their durations are counted once their dispatch has
returned, mismatches and unknown commands are those that were answered so, and each connection that
met a failure other than that its client hung up is counted once. -/
theorem conserved (h : Reached node t) (few : t.log.length < NodeMetrics.eventLimit)
    (waits : t.Waits) :
    (∃ stories, t.Tells node stories) ∧ ∀ stories, t.Tells node stories → t.Conserved stories := by
  have kept := h.kept
  refine ⟨exists_stories fun c mem => (kept.each c mem).tells (waits c mem), ?_⟩
  exact fun _ tells => kept.conserves few tells

/-! ## Two clients -/

/-- Between two requests a connection waits for its client. -/
theorem round_receives (node : NodeId) (ch : Channel) (p : Packet) :
    ∃ next, (Job.connection node ch p).round = .ask (.receive ch.handle 1 none) next := by
  rw [Job.round, cycle, Channel.readRequest, receiveExactly]
  exact ⟨_, rfl⟩

theorem waits_of_round {c : Serving} {ch : Channel} {p : Packet}
    (here : c.task = (Job.connection node ch p).round) : c.Waits ∧ c.isEnded = false := by
  obtain ⟨next, receives⟩ := round_receives node ch p
  rw [Serving.Waits, Serving.isEnded, here, receives]
  exact ⟨id, rfl⟩

/-- One of the connections goes on by some exchanges. -/
theorem Reached.goes {before after : List Serving} {p q : Task Ending} {acts : Journal}
    (goes : Goes p acts q) (allowed : ∀ x ∈ acts, x.1.Allows x.2) {c : Serving}
    {log : NodeMetrics.Log} (h : Reached node ⟨before ++ c :: after, log⟩)
    (here : c.task = resumed p) :
    ∃ c' : Serving, c'.task = resumed q ∧
      Reached node ⟨before ++ c' :: after,
        log ++ acts.recorded.map (ServiceKind.pdu.name, ·)⟩ := by
  induction goes generalizing c log with
  | refl => exact ⟨c, here, by rwa [← List.append_nil log] at h⟩
  | @ask a next r acts q _ ih =>
    obtain ⟨first, later⟩ := List.forall_mem_cons.mp allowed
    obtain ⟨c', task, reached⟩ := ih later (.step h (.answers here r first)) rfl
    refine ⟨c', task, ?_⟩
    rwa [List.append_assoc, ← List.map_append, ← Journal.recorded_append] at reached

section

variable (before after : List Serving) {c : Serving} {log : NodeMetrics.Log} {ch : Channel}
  {p : Packet} {acts : Journal} {header : Bytes}

/-- A connection is counted. -/
theorem Reached.opens (h : Reached node ⟨before ++ c :: after, log⟩)
    (here : c.task = (Job.opening node ch).round) :
    ∃ c' : Serving, c'.task = (Job.connection node ch .empty).round ∧
      Reached node ⟨before ++ c' :: after, log ++ [("pdu", .connectionOpened)]⟩ := by
  have opening : Goes (Job.opening node ch).round [⟨.record node .connectionOpened, ()⟩]
      (.done (.become (.connection node ch .empty))) :=
    .ask (r := .record node .connectionOpened) () .refl
  exact h.goes opening (List.forall_mem_singleton.mpr trivial) here

variable (h : Reached node ⟨before ++ c :: after, log⟩)
  (here : c.task = (Job.connection node ch p).round)
  (read : Runs ch.readHeader acts (.ok header)) (allowed : ∀ x ∈ acts, x.1.Allows x.2)

include h here read allowed

/-- Once its header is there, a connection goes on to what its request leads to. -/
theorem Reached.reads {rest : Journal} {e : Ending} (may : ∀ x ∈ rest, x.1.Allows x.2)
    (runs : Runs (Job.connection node ch p).round (acts ++ rest) e) :
    ∃ c' : Serving, c'.task = resumed (.done e) ∧
      Reached node ⟨before ++ c' :: after,
        log ++ rest.recorded.map (ServiceKind.pdu.name, ·)⟩ := by
  obtain ⟨next, receives⟩ := round_receives node ch p
  have waiting : c.task = resumed (Job.connection node ch p).round := by
    rw [here, receives]
    rfl
  have quiet : acts.recorded = [] :=
    reading_recorded_eq_nil (Channel.readHeader_drives trivial) read.goes
  have gone := h.goes runs.goes (List.forall_mem_append.mpr ⟨allowed, may⟩) waiting
  rwa [Journal.recorded_append, quiet] at gone

/-- A request that is dispatched without asking for anything is counted and answered. -/
theorem Reached.replies (bare : (p.readHeader header).length = 0) {o : Offer}
    (units : o.kind = .pdu) {reply : Packet}
    (dispatched : o.dispatch (p.readHeader header) = .done reply) :
    ∃ c' : Serving, c'.task = (Job.connection node ch reply).round ∧
      Reached node ⟨before ++ c' :: after,
        log ++ [("pdu", .dispatched (p.readHeader header).command reply.errorCode 0)]⟩ := by
  have answered : Runs (answer node (p.readHeader header))
      [⟨.now, (0 : Nat)⟩, ⟨.offer node, o⟩, ⟨.now, (0 : Nat)⟩,
        ⟨.record node (.dispatched (p.readHeader header).command reply.errorCode 0), ()⟩] reply := by
    refine .ask _ (.ask _ ?_)
    show Runs (o.dispatch (p.readHeader header) >>= _) _ _
    rw [dispatched]
    exact .ask _ (.ask _ (.done _))
  have sent : Runs (ch.writePacket reply) [⟨.send ch.handle reply.frame, .ok ()⟩]
      (.ok ()) := .ask _ (.done _)
  have cycled : Runs (cycle node ch p) (acts ++ (_ ++ (_ ++ []))) (some reply) :=
    (Channel.readRequest_bare read bare).bind (answered.bind (sent.bind (.done _)))
  have round : Runs (Job.connection node ch p).round (_ ++ []) _ := cycled.bind (.done _)
  rw [List.append_nil] at round
  refine h.reads before after here read allowed ?_ round
  simp [Act.Allows, units]

/-- A request that announces too much is counted and refused, and its connection ends. -/
theorem Reached.refuses (many : ch.options.maxPayload < (p.readHeader header).length.toNat) :
    ∃ c' : Serving, c'.task = .done (.over .done) ∧
      Reached node ⟨before ++ c' :: after,
        log ++ [("pdu", .linkFailed "too_large"), ("pdu", .connectionClosed)]⟩ := by
  have refused : Runs (cycle node ch p)
      (acts ++ [⟨.record node (.linkFailed "too_large"), ()⟩,
        ⟨.send ch.handle (refusal (p.readHeader header)).frame, .ok ()⟩]) none :=
    (Channel.readRequest_oversize read many).bind (.ask _ (.ask _ (.done _)))
  have round : Runs (Job.connection node ch p).round
      ((acts ++ _) ++ [⟨.record node .connectionClosed, ()⟩, ⟨.hangUp ch.handle, ()⟩])
      (.over .done) := refused.bind (.ask _ (.ask _ (.done _)))
  rw [List.append_assoc] at round
  refine h.reads before after here read allowed ?_ round
  simp [Act.Allows]

end

namespace TwoClients

/-- A client's connection, by number. -/
def line (n : ConnectionId) : Channel := ⟨⟨n, .acceptor⟩, {}⟩

theorem line_hears (n : ConnectionId) : ∀ header : Bytes, header.length = headerSize →
    ∃ acts : Journal, Runs (line n).readHeader acts (.ok header) ∧ ∀ x ∈ acts, x.1.Allows x.2
  | first :: second :: rest, size => by
    have len : rest.length + 1 = headerSize - 1 := by rw [← size]; rfl
    refine ⟨_, Channel.readHeader_pieces _ _ rfl first second rest len, ?_⟩
    simp [Act.Allows, ← len]

/-- What a node without devices offers. -/
def offer : Offer := { kind := .pdu, registry := .empty }

/-- A request for another protocol. -/
def astray : Bytes := List.replicate headerSize 0

/-- A request that every service takes, with a command that none has. -/
def unheard : Bytes := [0xFF, 0xFF, 0, 0, 99] ++ List.replicate 27 0

/-- A request with four gigabytes of payload. -/
def immense : Bytes := List.replicate headerSize 0xFF

theorem dispatch_astray : offer.dispatch (Packet.empty.readHeader astray)
    = .done (Service.reply (Packet.empty.readHeader astray, .error .protocolWrong)) := rfl

theorem dispatch_unheard : offer.dispatch (Packet.empty.readHeader unheard)
    = .done (Service.reply (Packet.empty.readHeader unheard, .error .badCommand)) := rfl

/-- Two clients in turn: one asks for another protocol, the other for a command that there is not,
and then the first one announces more payload than it may. -/
theorem conserved_turns :
    ∃ t : Traffic, Reached 0 t ∧ t.log.length < NodeMetrics.eventLimit ∧ t.Waits ∧
      t.connections.map Serving.isEnded = [true, false] ∧
      t.log = [("pdu", .connectionOpened), ("pdu", .connectionOpened), ("pdu", .dispatched 0 23 0),
        ("pdu", .dispatched 99 27 0), ("pdu", .linkFailed "too_large"),
        ("pdu", .connectionClosed)] ∧
      (∃ stories, t.Tells 0 stories) ∧ ∀ stories, t.Tells 0 stories → t.Conserved stories := by
  obtain ⟨_, astray_read, astray_allowed⟩ := line_hears 0 astray rfl
  obtain ⟨_, unheard_read, unheard_allowed⟩ := line_hears 1 unheard rfl
  obtain ⟨_, immense_read, immense_allowed⟩ := line_hears 0 immense rfl
  have accepted : Reached 0 ⟨[.accepted 0 (line 0), .accepted 0 (line 1)], []⟩ :=
    .step (.step .start (.accepts _ (line 0))) (.accepts _ (line 1))
  obtain ⟨a, a_idle, opened⟩ := accepted.opens [] [_] rfl
  obtain ⟨b, b_idle, both⟩ := opened.opens [a] [] rfl
  obtain ⟨a', a_idle', first⟩ :=
    both.replies [] [b] a_idle astray_read astray_allowed rfl rfl dispatch_astray
  obtain ⟨b', b_idle', second⟩ :=
    first.replies [a'] [] b_idle unheard_read unheard_allowed rfl rfl dispatch_unheard
  obtain ⟨a'', gone, refused⟩ :=
    second.refuses [] [b'] a_idle' immense_read immense_allowed (by decide)
  have gone_waits : a''.Waits ∧ a''.isEnded = true := by
    rw [Serving.Waits, Serving.isEnded, gone]
    exact ⟨trivial, rfl⟩
  have idle_waits := waits_of_round b_idle'
  have waits : ∀ c ∈ [a'', b'], c.Waits := by simp [gone_waits, idle_waits]
  have ended : [a'', b'].map Serving.isEnded = [true, false] := by simp [gone_waits, idle_waits]
  have few : 6 < NodeMetrics.eventLimit := by decide
  exact ⟨_, refused, few, waits, ended, rfl, conserved refused few waits⟩

end TwoClients

end Traffic

end Server

end DeviceRpc
