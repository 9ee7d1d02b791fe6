import DeviceRpc.Proofs.Relay.Attempt
import DeviceRpc.Proofs.Server.Journal

/-!
# A relay in use

Any number of operations on one relay, and the servers of the connections that they dial, each going
on when it likes (`Site.Step`). Nothing is fair and nothing is certain: an operation may wait for the
lock for good, a connection may be refused, and what was sent on a connection comes to the other side
as far as the network carries it, in both directions, at any time, also long after a client has
given up waiting for it. Nobody takes an operation away once it has begun. A server is a task of a
node that accepted the connection; what its dispatches ask may be answered in any way, and it may
offer other objects to every request.

**What is sound.** The task with the lock is inside the retry rule, the others wait for the lock or
are over (`Operation.Stage`). Nobody has the lock only while the client is in step. Each server's
journal tells its story, of what its client sent, and its client got what it wrote
(`Far.Serves`). Every step keeps this (`Site.Sound.step`), so it is so in every site that can be
reached.
-/

namespace DeviceRpc

open Packet (IsFramed)

/-! ## The site -/

namespace Inquiry

/-- What a driver does. -/
def operation (d : Driver) : (q : Inquiry) → Task (Except ErrorCode q.Answer)
  | switch on channel => d.perform (.switch on channel)
  | voltage channel => d.perform (.voltage channel)
  | current channel => d.perform (.current channel)
  | voltageCurrent channel => d.voltageCurrent channel
  | status => d.perform .status
  | channelOf name => d.perform (.channelOf name)
  | inspect => d.perform (.probe 0)

/-- A relay passes every operation on. -/
theorem operation_relay (cell : CellId) (q : Inquiry) :
    q.operation (.relay cell) = Driver.forward cell q.call := by
  cases q <;> rfl

end Inquiry

/-- The server of a connection. -/
structure Far where
  task : Task Ending
  journal : Journal := []
  /-- What it put on the line. -/
  wrote : Bytes := []

/-- An operation on a relay. -/
structure Operation where
  inquiry : Inquiry
  task : Task (Except ErrorCode inquiry.Answer)
  log : Log := {}

/-- A relay, the operations on it, and the connections that they dialed. -/
structure Site where
  kept : PduClient
  /-- Who has the lock. -/
  holder : Option Nat := none
  dialed : Nat := 0
  line : ConnectionId → Line := fun _ => {}
  far : ConnectionId → Far
  op : Nat → Option Operation := fun _ => none

/-- What goes on the line when an act is answered so: nothing but a frame that is sent, and all of it
unless sending failed. -/
def Act.Puts (a : Act) (r : a.Reply) (bytes : Bytes) : Prop :=
  bytes <+: (Journal.given a).flatten ∧ (¬ Journal.Failed a r → bytes = (Journal.given a).flatten)

namespace Far

/-- A connection that was just accepted. -/
def Fresh (f : Far) : Prop :=
  ∃ node channel, channel.handle.side = .acceptor ∧ f = { task := (Job.opening node channel).round }

/-- How a server goes on. What it receives was sent on the line. -/
inductive Step (l : Line) (f : Far) : Far → Prop where
  | act {a : Act} {next : a.Reply → Task Ending} {r : a.Reply} {bytes : Bytes}
      (waits : f.task = .ask a next) (allowed : a.Allows r) (puts : a.Puts r bytes)
      (arrived : Journal.received (f.journal ++ [⟨a, r⟩]) <+: l.wrote) :
      Step l f ⟨next r, f.journal ++ [⟨a, r⟩], f.wrote ++ bytes⟩
  | become {job : Job} (ended : f.task = .done (.become job)) : Step l f { f with task := job.round }

end Far

namespace Site

/-- The desk for the operation with this log. -/
def desk (s : Site) (log : Log) : Desk := ⟨s.kept, s.dialed, s.line, log⟩

/-- The site with an operation as it now is. -/
def withOp (k : Nat) (o : Operation) (s : Site) : Site :=
  { s with op := Function.update s.op k (some o) }

/-- The site once an operation has left its desk like this. -/
def leave (k : Nat) (o : Operation) (d : Desk) (far : ConnectionId → Far) (s : Site) : Site :=
  { s.withOp k o with kept := d.kept, dialed := d.dialed, line := d.line, far }

/-- One step of an operation or of a server. -/
inductive Step (cell : CellId) (s : Site) : Site → Prop where
  /-- Somebody asks the driver of the relay for something. -/
  | start {k : Nat} (q : Inquiry) (new : s.op k = none) :
      Step cell s (s.withOp k ⟨q, q.operation (.relay cell), {}⟩)
  | acquire {k : Nat} {o : Operation} {next : Unit → Task (Except ErrorCode o.inquiry.Answer)}
      (here : s.op k = some o) (waits : o.task = .ask (.acquire cell) next) (free : s.holder = none) :
      Step cell s { s.withOp k { o with task := next () } with holder := some k }
  | release {k : Nat} {o : Operation} {next : Unit → Task (Except ErrorCode o.inquiry.Answer)}
      (here : s.op k = some o) (waits : o.task = .ask (.release cell) next) :
      Step cell s
        { s.withOp k { o with task := next () } with
          holder := if s.holder = some k then none else s.holder }
  /-- Everything else that an operation asks. What it gets was put on the line by the server, and a
  connection that it dials has been accepted. -/
  | act {k : Nat} {o : Operation} {a : Act} {next : a.Reply → Task (Except ErrorCode o.inquiry.Answer)}
      {r : a.Reply} {d : Desk} (far : ConnectionId → Far) (here : s.op k = some o)
      (waits : o.task = .ask a next) (answers : Desk.Answers cell (s.desk o.log) a r d)
      (arrived : ∀ c < s.dialed, (d.line c).got <+: (s.far c).wrote)
      (old : ∀ c < s.dialed, far c = s.far c)
      (accepted : ∀ c, s.dialed ≤ c → c < d.dialed → (far c).Fresh) :
      Step cell s (s.leave k { o with task := next r, log := d.log } d far)
  | serve {c : ConnectionId} {f : Far} (dialed : c < s.dialed) (step : (s.far c).Step (s.line c) f) :
      Step cell s { s with far := Function.update s.far c f }

/-- A relay that was just set up. -/
def start (cell : CellId) (endpoint : Endpoint) (options : LinkOptions) (name : String) : Site where
  kept := { endpoint, options, name, home := some cell }
  far _ := ⟨.done (.over .done), [], []⟩

/-- What the relay may come to. -/
inductive Reached (cell : CellId) (s : Site) : Site → Prop where
  | refl : Reached cell s s
  | step {s' s'' : Site} (before : Reached cell s s') (step : Step cell s' s'') : Reached cell s s''

end Site

/-! ## Servers -/

/-- A server's journal tells its story, of what was sent to it and what it wrote. -/
structure Far.Serves (f : Far) (l : Line) : Prop where
  framed : l.Framed
  got : l.got <+: f.wrote
  keeps : Keeps Journal.Grows Journal.May Server.Rests f.task f.journal
  received : f.journal.received <+: l.wrote
  wrote : f.wrote <+: f.journal.sent.flatten
  clean : f.journal.Clean → f.wrote = f.journal.sent.flatten

namespace Far.Serves

variable {f f' : Far} {l : Line}

theorem told (h : f.Serves l) : ∃ rounds, f.journal.Told rounds := by
  have keeps := h.keeps
  cases task : f.task with
  | ask a next =>
    rw [task] at keeps
    exact keeps.1.1
  | done e =>
    rw [task] at keeps
    rcases keeps with ⟨_, _, _, rounds, -, -, ready⟩ | ⟨_, rounds, -, told⟩
    · exact ⟨rounds, ready.told⟩
    · exact ⟨rounds, told⟩

theorem fresh {f : Far} (h : f.Fresh) : f.Serves {} := by
  obtain ⟨node, channel, side, rfl⟩ := h
  exact ⟨⟨nofun, List.nil_prefix⟩, List.nil_prefix, Server.opening_keeps node side, List.nil_prefix,
    List.nil_prefix, fun _ => rfl⟩

theorem step (h : f.Serves l) (step : f.Step l f') : f'.Serves l := by
  cases step with
  | become ended =>
    have keeps := h.keeps
    rw [ended] at keeps
    rcases keeps with ⟨node, channel, p, rounds, same, side, ready⟩ | ⟨o, rounds, same, -⟩
    · cases same
      exact { h with keeps := Server.round_keeps node side p ready }
    · cases same
  | @act a next r bytes waits allowed puts arrived =>
    have keeps := h.keeps
    rw [waits] at keeps
    have may : f.journal.May a := keeps.1
    have sent : (Journal.sent (f.journal ++ [⟨a, r⟩])).flatten
        = f.journal.sent.flatten ++ (Journal.given a).flatten := by
      rw [Journal.sent_concat, List.flatten_append]
    refine ⟨h.framed, h.got.trans (List.prefix_append ..), keeps.2 r _ ⟨allowed, rfl⟩,
      arrived, ?_,
      ?_⟩
    · show f.wrote ++ bytes <+: _
      rw [sent]
      by_cases none : Journal.given a = []
      · obtain rfl : bytes = [] := by
          have puts := puts.1
          rw [none] at puts
          exact List.prefix_nil.mp puts
        rw [List.append_nil]
        exact h.wrote.trans (List.prefix_append ..)
      · -- something is sent only while everything before it was written
        rw [h.clean (may.clean none), List.prefix_append_right_inj]
        exact puts.1
    · intro clean
      show f.wrote ++ bytes = _
      rw [sent, h.clean fun x mem => clean x (List.mem_append_left _ mem),
        puts.2 (clean _ (List.mem_append_right _ (List.mem_singleton_self _)))]

/-- What an operation does to its connections is told to their servers. -/
theorem answers {cell : CellId} {q : Inquiry} {d d' : Desk} {a : Act} {r : a.Reply} {c : ConnectionId}
    (h : f.Serves (d.line c)) (answers : Desk.Answers cell d a r d') (may : d.May cell q a)
    (old : c < d.dialed) (arrived : (d'.line c).got <+: f.wrote) : f.Serves (d'.line c) := by
  have grows : (d.line c).Grows (d'.line c) := answers.grows.line c old
  exact ⟨answers.framed may old h.framed, arrived, h.keeps, h.received.trans grows.wrote, h.wrote,
    h.clean⟩

end Far.Serves

/-! ## Operations -/

/-- How an operation ends once the retry rule is through. -/
def Operation.finish {α : Type} (cell : CellId) (r : Except CallFailure α) :
    Task (Except ErrorCode α) :=
  ask (.release cell) >>= fun _ => .done (r.mapError CallFailure.code)

theorem Driver.forward_eq {α : Type} (cell : CellId) (op : Calling PduClient α) :
    Driver.forward cell op = ask (.acquire cell) >>= fun _ =>
      (PduClient.transport cell).attempt op >>= Operation.finish cell := by
  rw [forward, Transport.run]
  simp only [bind_assoc]
  rfl

/-- How far an operation is. -/
inductive Operation.Stage (cell : CellId) (s : Site) (k : Nat) (o : Operation) : Prop where
  | waiting (out : s.holder ≠ some k) (task : o.task = o.inquiry.operation (.relay cell))
      (log : o.log = {})
  | inside {p : Task (Except CallFailure o.inquiry.Answer)} (lock : s.holder = some k)
      (task : o.task = p >>= finish cell)
      (keeps : Keeps (Desk.Answers cell) (Desk.May cell o.inquiry)
        (fun r d => d.Done cell o.inquiry r) p (s.desk o.log))
  | ended {r : Except ErrorCode o.inquiry.Answer} (out : s.holder ≠ some k) (task : o.task = .done r)
      (modest : o.log.Modest o.inquiry)
      (answered : ∀ v, r = .ok v →
        ∃ reply, (s.desk o.log).Answered o.inquiry reply ∧ v = o.inquiry.read reply)

/-- What operations sent has a place on its connection, which is nobody else's. -/
structure Site.Places (s : Site) : Prop where
  placed : ∀ k o, s.op k = some o → ∀ x ∈ o.log.sent,
    x.line < s.dialed ∧ x.place < (s.line x.line).calls.length
  apart : ∀ k k' o o', k ≠ k' → s.op k = some o → s.op k' = some o' →
    ∀ x ∈ o.log.sent, ∀ y ∈ o'.log.sent, x.line = y.line → x.place ≠ y.place

/-- What holds in every site that can be reached. -/
structure Site.Sound (cell : CellId) (s : Site) : Prop where
  serves : ∀ c < s.dialed, (s.far c).Serves (s.line c)
  stage : ∀ k o, s.op k = some o → o.Stage cell s k
  rests : s.holder = none → s.kept.InStep cell (s.desk {})
  holds : ∀ k, s.holder = some k → ∃ o, s.op k = some o
  places : s.Places

namespace Operation.Stage

variable {cell : CellId} {s s' : Site} {k : Nat} {o : Operation}

/-- What others do leaves an operation where it is. -/
theorem elsewhere (h : o.Stage cell s k) (out : s.holder ≠ some k) (out' : s'.holder ≠ some k)
    (more : (s.desk o.log).Grows (s'.desk o.log)) : o.Stage cell s' k := by
  cases h with
  | waiting _ task log => exact .waiting out' task log
  | inside lock => exact absurd lock out
  | ended _ task modest answered =>
    refine .ended out' task modest fun v ok => ?_
    obtain ⟨reply, here, value⟩ := answered v ok
    exact ⟨reply, here.grown more rfl, value⟩

/-- Where nothing changes for the task with the lock, everybody stays where they are. -/
theorem same (h : o.Stage cell s k) (holder : s'.holder = s.holder) (kept : s'.kept = s.kept)
    (dialed : s'.dialed = s.dialed) (line : s'.line = s.line) : o.Stage cell s' k := by
  have desk : s'.desk o.log = s.desk o.log := by rw [Site.desk, Site.desk, kept, dialed, line]
  cases h with
  | waiting out task log => exact .waiting (holder ▸ out) task log
  | inside lock task keeps => exact .inside (holder ▸ lock) task (desk ▸ keeps)
  | ended out task modest answered => exact .ended (holder ▸ out) task modest (desk ▸ answered)

/-- An operation asks for the lock, gives it back, or works on its desk. -/
theorem asks {a : Act} {next : a.Reply → Task (Except ErrorCode o.inquiry.Answer)}
    (h : o.Stage cell s k) (waits : o.task = .ask a next) :
    a = .acquire cell ∨ a = .release cell ∨ a.OnDesk cell := by
  cases h with
  | waiting _ task =>
    have asked := waits.symm.trans task
    rw [Inquiry.operation_relay, Driver.forward_eq] at asked
    cases asked
    exact .inl rfl
  | ended _ task => cases waits.symm.trans task
  | @inside p _ task keeps =>
    have asked := waits.symm.trans task
    cases p with
    | ask a' next' =>
      cases asked
      exact .inr (.inr keeps.1.known)
    | done r =>
      cases asked
      exact .inr (.inl rfl)

end Operation.Stage

namespace Site

variable {cell : CellId} {s s' : Site} {k : Nat} {o : Operation}

theorem withOp_op {j : Nat} {o' : Operation} (h : (s.withOp k o).op j = some o') :
    j = k ∧ o' = o ∨ j ≠ k ∧ s.op j = some o' := by
  by_cases same : j = k
  · subst same
    simp only [withOp, Function.update_self] at h
    exact .inl ⟨rfl, (Option.some.inj h).symm⟩
  · simp only [withOp, Function.update_of_ne same] at h
    exact .inr ⟨same, h⟩

/-- An operation that sends nothing, or the next frame of a connection. -/
theorem Places.step (h : s.Places) (more : (s.desk {}).Grows (s'.desk {}))
    (op : s'.op = (s.withOp k o).op)
    (logged : ∀ x ∈ o.log.sent, (∃ o', s.op k = some o' ∧ x ∈ o'.log.sent) ∨
      x.line < s.dialed ∧ x.place = (s.line x.line).calls.length ∧
        x.place < (s'.line x.line).calls.length) : s'.Places := by
  have still {x : Sending} (here : x.line < s.dialed ∧ x.place < (s.line x.line).calls.length) :
      x.line < s'.dialed ∧ x.place < (s'.line x.line).calls.length :=
    ⟨Nat.lt_of_lt_of_le here.1 more.dialed,
      Nat.lt_of_lt_of_le here.2 (more.line x.line here.1).calls.length_le⟩
  have other {j : Nat} {o' : Operation} (ne : j ≠ k) (here : s.op j = some o') {x y : Sending}
      (memX : x ∈ o.log.sent) (memY : y ∈ o'.log.sent) (line : x.line = y.line) :
      x.place ≠ y.place := by
    rcases logged x memX with ⟨o'', old, mem⟩ | ⟨-, place, -⟩
    · exact h.apart k j o'' o' ne.symm old here x mem y memY line
    · have before := (h.placed j o' here y memY).2
      rw [place, line]
      exact Nat.ne_of_gt before
  constructor
  · intro j o' here x mem
    rw [op] at here
    rcases withOp_op here with ⟨rfl, rfl⟩ | ⟨ne, here⟩
    · rcases logged x mem with ⟨o'', old, mem⟩ | ⟨dialed, -, place⟩
      · exact still (h.placed _ o'' old x mem)
      · exact ⟨Nat.lt_of_lt_of_le dialed more.dialed, place⟩
    · exact still (h.placed j o' here x mem)
  · intro j j' o₁ o₂ ne here here' x memX y memY line
    rw [op] at here here'
    rcases withOp_op here with ⟨rfl, rfl⟩ | ⟨ne₁, old⟩
    · rcases withOp_op here' with ⟨rfl, rfl⟩ | ⟨ne₂, old'⟩
      · exact absurd rfl ne
      · exact other ne₂ old' memX memY line
    · rcases withOp_op here' with ⟨rfl, rfl⟩ | ⟨ne₂, old'⟩
      · exact (other ne₁ old memY memX line.symm).symm
      · exact h.apart j j' o₁ o₂ ne old old' x memX y memY line

/-- What was sent before has its place. -/
theorem Places.same (h : s.Places) (here : ∀ x ∈ o.log.sent, ∃ o', s.op k = some o' ∧ x ∈ o'.log.sent)
    (op : s'.op = (s.withOp k o).op) (dialed : s'.dialed = s.dialed) (line : s'.line = s.line) :
    s'.Places := by
  refine h.step ⟨Nat.le_of_eq dialed.symm, fun c _ => ?_⟩ op fun x mem => .inl (here x mem)
  show (s.line c).Grows (s'.line c)
  rw [line]
  exact .refl _

namespace Sound

variable (h : s.Sound cell)

include h

theorem start (q : Inquiry) (new : s.op k = none) :
    (s.withOp k ⟨q, q.operation (.relay cell), {}⟩).Sound cell := by
  have out : s.holder ≠ some k := by
    intro lock
    obtain ⟨o, here⟩ := h.holds k lock
    cases new.symm.trans here
  refine ⟨h.serves, fun j o' here => ?_, h.rests, fun j lock => ?_, ?_⟩
  · rcases withOp_op here with ⟨rfl, rfl⟩ | ⟨ne, here⟩
    · exact .waiting out rfl rfl
    · exact (h.stage j o' here).same rfl rfl rfl rfl
  · obtain ⟨o, here⟩ := h.holds j lock
    have ne : j ≠ k := fun same => out (same ▸ lock)
    exact ⟨o, (Function.update_of_ne ne ..).trans here⟩
  · refine h.places.same (fun x mem => ?_) rfl rfl rfl
    cases mem

theorem acquire {next : Unit → Task (Except ErrorCode o.inquiry.Answer)} (here : s.op k = some o)
    (waits : o.task = .ask (.acquire cell) next) (free : s.holder = none) :
    Sound cell { s.withOp k { o with task := next () } with holder := some k } := by
  have out (j : Nat) : s.holder ≠ some j := by rw [free]; exact nofun
  refine ⟨h.serves, fun j o' here' => ?_, nofun, fun j lock => ?_, ?_⟩
  · rcases withOp_op here' with ⟨rfl, rfl⟩ | ⟨ne, here'⟩
    · cases h.stage _ o here with
      | inside lock => exact absurd lock (out _)
      | ended _ task => cases waits.symm.trans task
      | waiting _ task log =>
        have asked := waits.symm.trans task
        rw [Inquiry.operation_relay, Driver.forward_eq] at asked
        cases asked
        have inStep : s.kept.InStep cell (s.desk o.log) := log ▸ h.rests free
        exact .inside rfl rfl (Inquiry.attempt_keeps inStep log)
    · refine (h.stage j o' here').elsewhere (out j) (fun lock => ne (Option.some.inj lock).symm) ?_
      exact ⟨Nat.le_refl _, fun c _ => .refl _⟩
  · cases lock
    exact ⟨_, Function.update_self ..⟩
  · exact h.places.same (o := { o with task := next () }) (fun x mem => ⟨o, here, mem⟩) rfl rfl rfl

theorem release {next : Unit → Task (Except ErrorCode o.inquiry.Answer)} (here : s.op k = some o)
    (waits : o.task = .ask (.release cell) next) :
    Sound cell
      { s.withOp k { o with task := next () } with
        holder := if s.holder = some k then none else s.holder } := by
  cases h.stage k o here with
  | waiting _ task =>
    have asked := waits.symm.trans task
    rw [Inquiry.operation_relay, Driver.forward_eq] at asked
    cases asked
  | ended _ task => cases waits.symm.trans task
  | @inside p lock task keeps =>
    have asked := waits.symm.trans task
    cases p with
    | ask a next' =>
      cases asked
      exact keeps.1.known.elim
    | done r =>
      have done : (s.desk o.log).Done cell o.inquiry r := keeps
      cases asked
      have freed : (if s.holder = some k then none else s.holder) = none := if_pos lock
      have out (j : Nat) : (if s.holder = some k then none else s.holder) ≠ some j := by
        rw [freed]
        exact nofun
      refine ⟨h.serves, fun j o' here' => ?_, fun _ => ?_, fun j lock' => absurd lock' (out j), ?_⟩
      · rcases withOp_op here' with ⟨rfl, rfl⟩ | ⟨ne, here'⟩
        · refine .ended (out _) rfl done.modest fun v ok => ?_
          cases r with
          | error e => cases ok
          | ok v' =>
            cases ok
            exact done.answered _ rfl
        · refine (h.stage j o' here').elsewhere ?_ (out j) ⟨Nat.le_refl _, fun c _ => .refl _⟩
          rw [lock]
          exact fun same => ne (Option.some.inj same).symm
      · exact ⟨done.inStep.home, fun rpc same =>
          have opened := done.inStep.connection rpc same
          ⟨opened.home, opened.side, opened.dialed, opened.settled⟩⟩
      · exact h.places.same (o := { o with task := .done _ }) (fun x mem => ⟨o, here, mem⟩) rfl rfl rfl

theorem act {a : Act} {next : a.Reply → Task (Except ErrorCode o.inquiry.Answer)} {r : a.Reply}
    {d : Desk} {far : ConnectionId → Far} (here : s.op k = some o) (waits : o.task = .ask a next)
    (answers : Desk.Answers cell (s.desk o.log) a r d)
    (arrived : ∀ c < s.dialed, (d.line c).got <+: (s.far c).wrote)
    (old : ∀ c < s.dialed, far c = s.far c)
    (accepted : ∀ c, s.dialed ≤ c → c < d.dialed → (far c).Fresh) :
    Sound cell (s.leave k { o with task := next r, log := d.log } d far) := by
  cases h.stage k o here with
  | waiting _ task =>
    have asked := waits.symm.trans task
    rw [Inquiry.operation_relay, Driver.forward_eq] at asked
    cases asked
    cases answers
  | ended _ task => cases waits.symm.trans task
  | @inside p lock task keeps =>
    have asked := waits.symm.trans task
    cases p with
    | done =>
      cases asked
      cases answers
    | ask a' next' =>
      cases asked
      have may : (s.desk o.log).May cell o.inquiry a := keeps.1
      have grows := answers.grows
      have only {j : Nat} (lock' : s.holder = some j) : j = k :=
        Option.some.inj (lock'.symm.trans lock)
      refine ⟨fun c dialed => ?_, fun j o' here' => ?_, fun free => ?_, fun j lock' => ?_, ?_⟩
      · by_cases before : c < s.dialed
        · show (far c).Serves (d.line c)
          rw [old c before]
          exact Far.Serves.answers (h.serves c before) answers may before (arrived c before)
        · have new := Nat.not_lt.mp before
          have empty : d.line c = {} := answers.line_new new dialed
          show (far c).Serves (d.line c)
          rw [empty]
          exact .fresh (accepted c new dialed)
      · rcases withOp_op here' with ⟨rfl, rfl⟩ | ⟨ne, here'⟩
        · exact .inside lock rfl (keeps.2 r d answers)
        · have out : s.holder ≠ some j := fun lock' => ne (only lock')
          exact (h.stage j o' here').elsewhere out out ⟨grows.dialed, grows.line⟩
      · cases free.symm.trans lock
      · obtain rfl := only lock'
        exact ⟨_, Function.update_self ..⟩
      · refine h.places.step (o := { o with task := _, log := d.log }) ⟨grows.dialed, grows.line⟩ rfl ?_
        intro x mem
        exact (answers.sent_next may mem).imp_left fun mem => ⟨o, here, mem⟩

theorem serve {c : ConnectionId} {f : Far} (dialed : c < s.dialed)
    (step : (s.far c).Step (s.line c) f) :
    Sound cell { s with far := Function.update s.far c f } := by
  refine ⟨fun c' dialed' => ?_, fun j o here => (h.stage j o here).same rfl rfl rfl rfl, h.rests,
    h.holds, h.places.placed, h.places.apart⟩
  by_cases same : c' = c
  · subst same
    simp only [Function.update_self]
    exact (h.serves c' dialed).step step
  · simp only [Function.update_of_ne same]
    exact h.serves c' dialed'

/-- Whatever happens next, the site stays sound. -/
theorem step (step : Step cell s s') : s'.Sound cell := by
  cases step with
  | start q new => exact h.start q new
  | acquire here waits free => exact h.acquire here waits free
  | release here waits => exact h.release here waits
  | act far here waits answers arrived old accepted =>
    exact h.act here waits answers arrived old accepted
  | serve dialed step => exact h.serve dialed step

end Sound

theorem sound_start (endpoint : Endpoint) (options : LinkOptions) (name : String) :
    (start cell endpoint options name).Sound cell := by
  refine ⟨fun c dialed => absurd dialed (Nat.not_lt_zero c), fun k o here => ?_, fun _ => ⟨rfl, ?_⟩,
    nofun, fun k o here => ?_, fun k k' o o' _ here => ?_⟩
  · cases here
  · intro rpc same
    cases same
  · cases here
  · cases here

theorem Sound.run (h : s.Sound cell) (reached : Reached cell s s') : s'.Sound cell := by
  induction reached with
  | refl => exact h
  | step _ step ih => exact ih.step step

/-- Every site that a relay comes to is sound. -/
theorem Reached.sound {endpoint : Endpoint} {options : LinkOptions} {name : String}
    (reached : Reached cell (start cell endpoint options name) s) : s.Sound cell :=
  (sound_start endpoint options name).run reached

theorem Reached.trans {s'' : Site} (h : Reached cell s s') (h' : Reached cell s' s'') :
    Reached cell s s'' := by
  induction h' with
  | refl => exact h
  | step _ step ih => exact .step ih step

end Site

end DeviceRpc
