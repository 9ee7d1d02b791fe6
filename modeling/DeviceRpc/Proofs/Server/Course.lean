import DeviceRpc.Proofs.Call.Remote
import DeviceRpc.Proofs.Link.Phases
import DeviceRpc.Proofs.Server.Journal

/-!
# The course of a connection

What a server does on one connection, told from everything it exchanged (`Course`): when it was
between two requests, which requests it dispatched and with which reply, what stopped it, and which
envelope it had at every moment. The telling goes phase by phase. Some exchanges are a part of
reading a header, of receiving a payload or of dispatching, or they are all of it, and then the
connection is in the next moment.

Serving has no other course (`Server.round_runs`): wherever the task of a connection stands, and
however its acts were answered, its journal is the journal of a course. Between the moments in which
it may have to wait, everything it asks is answered at once (`Moment.Passing`).
-/

namespace DeviceRpc

open Prog (Goes Runs)

/-- What is answered at once. -/
def Act.Prompt : Act → Prop
  | now | offer _ | record _ _ | hangUp _ => True
  | _ => False

namespace Server

/-! ## Moments -/

/-- A request that was dispatched. -/
structure Answered where
  request : Packet
  reply : Packet

/-- What a server is at on a connection. -/
inductive Moment where
  /-- The connection is accepted, and not counted yet. -/
  | accepted
  /-- The next request may come. -/
  | idle
  /-- The header of a request is on its way. -/
  | heading
  /-- There is room for the payload that the header announces. -/
  | announced
  /-- The payload is on its way. -/
  | receiving
  /-- A request is there. -/
  | whole
  /-- The clock was looked at. -/
  | started
  /-- What the node offers is known. -/
  | offered (registry : Registry Object)
  /-- The request is being dispatched. -/
  | dispatching
  /-- Dispatching has returned. -/
  | returned
  /-- The clock was looked at again. -/
  | measured
  /-- The request is counted, and its reply is on its way. -/
  | replying
  /-- More payload is announced than is accepted. -/
  | oversize (n : Nat)
  /-- That is counted, and the refusal is on its way. -/
  | refusing (n : Nat)
  /-- The link has failed. -/
  | broken (e : LinkFailure)
  /-- No more requests are read, after a failure or because the client hung up. -/
  | ending (why : Option LinkFailure)
  /-- The connection is not counted any more. -/
  | parting (why : Option LinkFailure)
  | gone (why : Option LinkFailure)

namespace Moment

/-- Whatever is asked in this moment is answered at once. -/
def Passing : Moment → Prop
  | accepted | whole | started | returned | measured | oversize _ | broken _ | ending _
  | parting _ =>
    True
  | _ => False

/-- Where a reader's failure leaves the connection. -/
def stopped : LinkFailure → Moment
  | .closed => ending none
  | e => broken e

end Moment

/-- What there is to tell of a connection. -/
structure Story where
  moment : Moment := .accepted
  /-- The envelope, and those that it was before. -/
  envelope : Packet := .empty
  past : List Packet := []
  /-- The requests that were dispatched, in their order. -/
  answered : List Answered := []

namespace Story

/-- The same in another moment. -/
def moved (m : Moment) (s : Story) : Story := { s with moment := m }

/-- The same in another moment and with another envelope. -/
def turned (m : Moment) (p : Packet) (s : Story) : Story :=
  { s with moment := m, envelope := p, past := s.past ++ [s.envelope] }

/-- One more request was dispatched. -/
def answers (reply : Packet) (s : Story) : Story :=
  { s.turned .returned reply with answered := s.answered ++ [⟨s.envelope, reply⟩] }

end Story

/-- The journal of a connection and what it tells. -/
inductive Course (node : NodeId) (ch : Channel) : Journal → Story → Prop where
  | accepted : Course node ch [] {}
  | opened : Course node ch [⟨.record node .connectionOpened, ()⟩] { moment := .idle }
  -- the header
  | heading {j acts : Journal} {s : Story} {rest : Task (Except LinkFailure Bytes)}
      (h : Course node ch j s) (idle : s.moment = .idle) (goes : Goes ch.readHeader acts rest) :
      Course node ch (j ++ acts) (s.moved .heading)
  | unheard {j acts : Journal} {s : Story} {e : LinkFailure} (h : Course node ch j s)
      (idle : s.moment = .idle) (runs : Runs ch.readHeader acts (.error e)) :
      Course node ch (j ++ acts) (s.moved (.stopped e))
  | bare {j acts : Journal} {s : Story} {header : Bytes} (h : Course node ch j s)
      (idle : s.moment = .idle) (runs : Runs ch.readHeader acts (.ok header))
      (none : (s.envelope.readHeader header).length = 0) :
      Course node ch (j ++ acts) (s.turned .whole (s.envelope.readHeader header))
  | oversize {j acts : Journal} {s : Story} {header : Bytes} (h : Course node ch j s)
      (idle : s.moment = .idle) (runs : Runs ch.readHeader acts (.ok header))
      (many : ch.options.maxPayload < (s.envelope.readHeader header).length.toNat) :
      Course node ch (j ++ acts)
        (s.turned (.oversize (s.envelope.readHeader header).length.toNat)
          (s.envelope.readHeader header))
  | announced {j acts : Journal} {s : Story} {header : Bytes} (h : Course node ch j s)
      (idle : s.moment = .idle) (runs : Runs ch.readHeader acts (.ok header))
      (some : (s.envelope.readHeader header).length ≠ 0)
      (few : (s.envelope.readHeader header).length.toNat ≤ ch.options.maxPayload) :
      Course node ch (j ++ acts)
        (s.turned .announced ((s.envelope.readHeader header).roomFor
          (s.envelope.readHeader header).length.toNat))
  -- the payload
  | receiving {j acts : Journal} {s : Story} {rest : Task (Bytes × Option LinkFailure)}
      (h : Course node ch j s) (room : s.moment = .announced)
      (goes : Goes (ch.transfer s.envelope.length.toNat) acts rest) :
      Course node ch (j ++ acts) (s.moved .receiving)
  | filled {j acts : Journal} {s : Story} {bs : Bytes} (h : Course node ch j s)
      (room : s.moment = .announced)
      (runs : Runs (ch.transfer s.envelope.length.toNat) acts (bs, none)) :
      Course node ch (j ++ acts) (s.turned .whole (s.envelope.poke 0 bs))
  | unfilled {j acts : Journal} {s : Story} {bs : Bytes} {e : LinkFailure} (h : Course node ch j s)
      (room : s.moment = .announced)
      (runs : Runs (ch.transfer s.envelope.length.toNat) acts (bs, some e)) :
      Course node ch (j ++ acts) (s.turned (.stopped e) (s.envelope.poke 0 bs))
  -- the answer
  | started {j : Journal} {s : Story} (h : Course node ch j s) (whole : s.moment = .whole)
      (time : Instant) : Course node ch (j ++ [⟨.now, time⟩]) (s.moved .started)
  | offered {j : Journal} {s : Story} (h : Course node ch j s) (started : s.moment = .started)
      (o : Offer) (units : o.kind = .pdu) :
      Course node ch (j ++ [⟨.offer node, o⟩]) (s.moved (.offered o.registry))
  | dispatching {j acts : Journal} {s : Story} {registry : Registry Object} {rest : Task Packet}
      (h : Course node ch j s) (offered : s.moment = .offered registry)
      (goes : Goes (Pdu.service.dispatch registry s.envelope) acts rest) :
      Course node ch (j ++ acts) (s.moved .dispatching)
  | returned {j acts : Journal} {s : Story} {registry : Registry Object} {reply : Packet}
      (h : Course node ch j s) (offered : s.moment = .offered registry)
      (runs : Runs (Pdu.service.dispatch registry s.envelope) acts reply) :
      Course node ch (j ++ acts) (s.answers reply)
  | measured {j : Journal} {s : Story} (h : Course node ch j s) (returned : s.moment = .returned)
      (time : Instant) : Course node ch (j ++ [⟨.now, time⟩]) (s.moved .measured)
  | counted {j : Journal} {s : Story} {past : List Answered} {d : Answered}
      (h : Course node ch j s) (measured : s.moment = .measured)
      (last : s.answered = past ++ [d]) (took : Nat) :
      Course node ch
        (j ++ [⟨.record node (.dispatched d.request.command d.reply.errorCode took), ()⟩])
        (s.moved .replying)
  | replied {j : Journal} {s : Story} (h : Course node ch j s) (replying : s.moment = .replying) :
      Course node ch (j ++ [⟨.send ch.handle s.envelope.frame, .ok ()⟩]) (s.moved .idle)
  | unsent {j : Journal} {s : Story} (h : Course node ch j s) (replying : s.moment = .replying)
      (e : LinkFailure) :
      Course node ch (j ++ [⟨.send ch.handle s.envelope.frame, .error e⟩]) (s.moved (.broken e))
  -- the end
  | refusing {j : Journal} {s : Story} {n : Nat} (h : Course node ch j s)
      (oversize : s.moment = .oversize n) :
      Course node ch (j ++ [⟨.record node (.linkFailed (LinkFailure.tooLarge n).label), ()⟩])
        (s.turned (.refusing n) (refusal s.envelope))
  | refused {j : Journal} {s : Story} {n : Nat} (h : Course node ch j s)
      (refusing : s.moment = .refusing n) (r : Except LinkFailure Unit) :
      Course node ch (j ++ [⟨.send ch.handle s.envelope.frame, r⟩])
        (s.moved (.ending (some (.tooLarge n))))
  | failed {j : Journal} {s : Story} {e : LinkFailure} (h : Course node ch j s)
      (broken : s.moment = .broken e) :
      Course node ch (j ++ [⟨.record node (.linkFailed e.label), ()⟩])
        (s.moved (.ending (some e)))
  | parting {j : Journal} {s : Story} {why : Option LinkFailure} (h : Course node ch j s)
      (ending : s.moment = .ending why) :
      Course node ch (j ++ [⟨.record node .connectionClosed, ()⟩]) (s.moved (.parting why))
  | gone {j : Journal} {s : Story} {why : Option LinkFailure} (h : Course node ch j s)
      (parting : s.moment = .parting why) :
      Course node ch (j ++ [⟨.hangUp ch.handle, ()⟩]) (s.moved (.gone why))

/-! ## Serving has a course -/

/-- Whatever is asked, the journal is that of a course. -/
def Asked (node : NodeId) (ch : Channel) (j : Journal) (a : Act) : Prop :=
  ∃ s, Course node ch j s ∧ (s.moment.Passing → a.Prompt) ∧ ∀ why, s.moment ≠ .gone why

/-- What serving one request leads to: the next request may come, or the connection is at its
end. -/
def Cycled (node : NodeId) (ch : Channel) (r : Option Packet) (j : Journal) : Prop :=
  (∃ s, Course node ch j s ∧ s.moment = .idle ∧ r = some s.envelope) ∨
  ∃ s why, Course node ch j s ∧ s.moment = .ending why ∧ r = none

/-- What a round of a connection leads to. -/
def Rested (node : NodeId) (ch : Channel) (e : Ending) (j : Journal) : Prop :=
  (∃ s, Course node ch j s ∧ s.moment = .idle ∧ e = .become (.connection node ch s.envelope)) ∨
  ∃ s why, Course node ch j s ∧ s.moment = .gone why ∧ e = .over .done

/-- What a reader may fail with. -/
def Stops (e : LinkFailure) : Prop := e = .closed ∨ e = .connectionReset ∨ e = .timedOut

/-- What reading a request led to. -/
inductive Got.Result (s : Story) (r : Packet × Except LinkFailure Unit) : Prop where
  | whole (whole : s.moment = .whole) (request : r = (s.envelope, .ok ()))
  | oversize {n : Nat} (oversize : s.moment = .oversize n)
      (refused : r = (s.envelope, .error (.tooLarge n)))
  | stopped {e : LinkFailure} (stops : Stops e) (stopped : s.moment = .stopped e)
      (failed : r = (s.envelope, .error e))

/-- What reading a request leads to. -/
def Got (node : NodeId) (ch : Channel) (r : Packet × Except LinkFailure Unit) (j : Journal) :
    Prop :=
  ∃ s, Course node ch j s ∧ Got.Result s r

/-- A part of a program is followed exchange by exchange. -/
theorem followed {β : Type} {I : Journal → Act → Prop} : ∀ {p : Task β} {j : Journal},
    (∀ acts a next, Goes p acts (.ask a next) → I (j ++ acts) a) →
    Keeps Journal.Grows I (fun b j' => ∃ acts, j' = j ++ acts ∧ Runs p acts b) p j
  | .done b, j, _ => ⟨[], (List.append_nil j).symm, .done b⟩
  | .ask a next, j, may => by
    refine ⟨?_, ?_⟩
    · have here := may [] a next .refl
      rwa [List.append_nil] at here
    · intro r _ hr
      obtain ⟨-, rfl⟩ := hr
      refine (followed fun acts a' next' goes => ?_).mono (fun _ _ here => here) ?_
      · have here := may (⟨a, r⟩ :: acts) a' next' (.ask r goes)
        rwa [List.append_cons] at here
      · intro b j' post
        obtain ⟨acts, rfl, runs⟩ := post
        exact ⟨⟨a, r⟩ :: acts, by rw [List.append_assoc]; rfl, .ask r runs⟩

theorem receiveExactly_stops {h : Handle} {limit : Option Instant} (want : Nat) :
    ∀ {got : Bytes} {acts : Journal} {bs : Bytes} {e : LinkFailure},
      Runs (receiveExactly h limit Channel.unnoted want got) acts (bs, some e) → Stops e := by
  induction want using Nat.strongRecOn with
  | ind want ih =>
    intro got acts bs e runs
    cases want with
    | zero =>
      unfold receiveExactly at runs
      cases runs.of_done.2
    | succ want =>
      unfold receiveExactly at runs
      cases runs with
      | ask r rest =>
        cases r with
        | bytes first more => exact ih _ (Nat.lt_succ_of_le (Nat.sub_le ..)) rest
        | ended =>
          cases rest.of_done.2
          exact .inl rfl
        | reset =>
          cases rest.of_done.2
          exact .inr (.inl rfl)
        | late =>
          cases rest.of_done.2
          exact .inr (.inr rfl)

theorem transfer_stops {ch : Channel} {n : Nat} {acts : Journal} {bs : Bytes} {e : LinkFailure}
    (runs : Runs (ch.transfer n) acts (bs, some e)) : Stops e := by
  obtain ⟨_, _, limit, -, -, rest⟩ := Runs.of_bind runs
  exact receiveExactly_stops n rest

theorem readHeader_stops {ch : Channel} {acts : Journal} {e : LinkFailure}
    (runs : Runs ch.readHeader acts (.error e)) : Stops e := by
  obtain ⟨_, _, ⟨first, failure⟩, -, head, rest⟩ := Runs.of_bind runs
  cases failure with
  | some e' =>
    cases rest.of_done.2
    exact receiveExactly_stops 1 head
  | none =>
    obtain ⟨_, _, ⟨more, failure⟩, -, tail, rest⟩ := Runs.of_bind rest
    cases failure with
    | some e' =>
      cases rest.of_done.2
      exact transfer_stops tail
    | none => cases rest.of_done.2

section

variable {node : NodeId} {ch : Channel} {j : Journal} {s : Story}

/-- What is asked in a moment in which the connection may have to wait. -/
theorem asked_waiting (h : Course node ch j s) (a : Act) (waits : ¬ s.moment.Passing)
    (here : ∀ why, s.moment ≠ .gone why) : Asked node ch j a :=
  ⟨s, h, fun passing => absurd passing waits, here⟩

/-- A failure of the link ends the connection once it is counted. -/
theorem failed_runs {e : LinkFailure} (h : Course node ch j s) (broken : s.moment = .broken e) :
    Keeps Journal.Grows (Asked node ch) (Cycled node ch)
      (do
        recordFailure node e
        return none) j := by
  refine .request ⟨s, h, fun _ => trivial, by rw [broken]; rintro _ ⟨⟩⟩ fun _ j' hr => ?_
  obtain ⟨-, rfl⟩ := hr
  exact .inr ⟨_, _, h.failed broken, rfl, rfl⟩

/-- What is announced beyond the limit is counted, refused once and not read. -/
theorem oversize_runs {n : Nat} (h : Course node ch j s) (oversize : s.moment = .oversize n) :
    Keeps Journal.Grows (Asked node ch) (Cycled node ch)
      (do
        recordFailure node (.tooLarge n)
        discard (ch.writePacket (refusal s.envelope))
        return none) j := by
  refine .request ⟨s, h, fun _ => trivial, by rw [oversize]; rintro _ ⟨⟩⟩ fun _ j₁ hr => ?_
  obtain ⟨-, rfl⟩ := hr
  have refusing := h.refusing oversize
  refine .bind (.request (asked_waiting refusing _ id (by rintro _ ⟨⟩)) fun r j₂ hr => ?_)
  obtain ⟨-, rfl⟩ := hr
  exact .inr ⟨_, _, refusing.refused rfl r, rfl, rfl⟩

/-- A reply is sent, and the next request may come if that succeeds. -/
theorem replying_runs (h : Course node ch j s) (replying : s.moment = .replying) :
    Keeps Journal.Grows (Asked node ch) (Cycled node ch)
      (do
        match ← ch.writePacket s.envelope with
        | .ok () => return some s.envelope
        | .error e =>
          recordFailure node e
          return none) j := by
  refine .request (asked_waiting h _ (by rw [replying]; exact id)
    (by rw [replying]; rintro _ ⟨⟩)) fun r j' hr => ?_
  obtain ⟨-, rfl⟩ := hr
  cases r with
  | ok => exact .inl ⟨_, h.replied replying, rfl, rfl⟩
  | error e => exact failed_runs (h.unsent replying e) rfl

/-- A request that is there is dispatched, counted and answered. -/
theorem answer_runs (h : Course node ch j s) (whole : s.moment = .whole) :
    Keeps Journal.Grows (Asked node ch)
      (fun reply j' => ∃ s', Course node ch j' s' ∧ s'.moment = .replying ∧ s'.envelope = reply)
      (answer node s.envelope) j := by
  unfold answer
  refine .request ⟨s, h, fun _ => trivial, by rw [whole]; rintro _ ⟨⟩⟩ fun time j₁ hr => ?_
  obtain ⟨-, rfl⟩ := hr
  have started := h.started whole time
  refine .request ⟨_, started, fun _ => trivial, by rintro _ ⟨⟩⟩ fun o j₂ hr => ?_
  obtain ⟨units, rfl⟩ := hr
  have offered := started.offered rfl o units
  have service : o.dispatch s.envelope = Pdu.service.dispatch o.registry s.envelope := by
    have kind : o.kind = .pdu := units
    rw [Offer.dispatch, kind]
    rfl
  rw [service]
  refine .andThen (followed fun acts a next goes => ?_) fun reply j₃ post => ?_
  · exact asked_waiting (offered.dispatching rfl goes) a id (by rintro _ ⟨⟩)
  obtain ⟨acts, rfl, runs⟩ := post
  have returned := offered.returned rfl runs
  refine .request ⟨_, returned, fun _ => trivial, by rintro _ ⟨⟩⟩ fun time' j₄ hr => ?_
  obtain ⟨-, rfl⟩ := hr
  have measured := returned.measured rfl time'
  refine .request ⟨_, measured, fun _ => trivial, by rintro _ ⟨⟩⟩ fun _ j₅ hr => ?_
  obtain ⟨-, rfl⟩ := hr
  exact ⟨_, measured.counted rfl rfl _, rfl, rfl⟩

/-- Reading a request. -/
theorem readRequest_runs (h : Course node ch j s) (idle : s.moment = .idle) :
    Keeps Journal.Grows (Asked node ch) (Got node ch) (ch.readRequest s.envelope) j := by
  rw [Channel.readRequest_eq]
  refine .andThen (followed fun acts a next goes => ?_) fun r j₁ post => ?_
  · exact asked_waiting (h.heading idle goes) a id (by rintro _ ⟨⟩)
  obtain ⟨acts, rfl, runs⟩ := post
  cases r with
  | error e => exact ⟨_, h.unheard idle runs, .stopped (readHeader_stops runs) rfl rfl⟩
  | ok header =>
    simp only
    by_cases none : (s.envelope.readHeader header).length = 0
    · rw [Channel.readPayload_bare none]
      exact ⟨_, h.bare idle runs none, .whole rfl rfl⟩
    by_cases few : (s.envelope.readHeader header).length.toNat ≤ ch.options.maxPayload
    · have announced := h.announced idle runs none few
      rw [Channel.readPayload_eq none few]
      refine .andThen (followed fun acts a next goes => ?_) fun r j₂ post => ?_
      · exact asked_waiting (announced.receiving rfl goes) a id (by rintro _ ⟨⟩)
      obtain ⟨acts', rfl, runs'⟩ := post
      obtain ⟨bs, failure⟩ := r
      cases failure with
      | none => exact ⟨_, announced.filled rfl runs', .whole rfl rfl⟩
      | some e => exact ⟨_, announced.unfilled rfl runs', .stopped (transfer_stops runs') rfl rfl⟩
    · have many := Nat.lt_of_not_le few
      rw [Channel.readPayload_oversize many]
      exact ⟨_, h.oversize idle runs many, .oversize rfl rfl⟩

/-- Serving one request. -/
theorem cycle_runs (h : Course node ch j s) (idle : s.moment = .idle) :
    Keeps Journal.Grows (Asked node ch) (Cycled node ch) (cycle node ch s.envelope) j := by
  refine .andThen (readRequest_runs h idle) fun r j₁ post => ?_
  obtain ⟨s', h', got⟩ := post
  cases got with
  | whole whole request =>
    rw [request]
    refine .andThen (answer_runs h' whole) fun reply j₂ post => ?_
    obtain ⟨s'', h'', replying, rfl⟩ := post
    exact replying_runs h'' replying
  | oversize oversize refused =>
    rw [refused]
    exact oversize_runs h' oversize
  | stopped stops stopped failed =>
    rw [failed]
    rcases stops with rfl | rfl | rfl
    · exact .inr ⟨s', none, h', stopped, rfl⟩
    · exact failed_runs h' stopped
    · exact failed_runs h' stopped

/-- One round of a connection between two requests. -/
theorem round_runs (h : Course node ch j s) (idle : s.moment = .idle) :
    Keeps Journal.Grows (Asked node ch) (Rested node ch)
      (Job.connection node ch s.envelope).round j := by
  refine .andThen (cycle_runs h idle) fun r j₁ post => ?_
  rcases post with ⟨s', h', idle', rfl⟩ | ⟨s', why, h', ending, rfl⟩
  · exact .inl ⟨s', h', idle', rfl⟩
  · refine .request ⟨s', h', fun _ => trivial, by rw [ending]; rintro _ ⟨⟩⟩ fun _ j₂ hr => ?_
    obtain ⟨-, rfl⟩ := hr
    have parting := h'.parting ending
    refine .request ⟨_, parting, fun _ => trivial, by rintro _ ⟨⟩⟩ fun _ j₃ hr => ?_
    obtain ⟨-, rfl⟩ := hr
    exact .inr ⟨_, why, parting.gone rfl, rfl, rfl⟩

/-- The first round of a connection. -/
theorem opening_runs (node : NodeId) (ch : Channel) :
    Keeps Journal.Grows (Asked node ch) (Rested node ch) (Job.opening node ch).round [] := by
  refine .request ⟨{}, .accepted, fun _ => trivial, by rintro _ ⟨⟩⟩ fun _ j' hr => ?_
  obtain ⟨-, rfl⟩ := hr
  exact .inl ⟨{ moment := .idle }, .opened, rfl, rfl⟩

end

/-! ## A task that serves -/

/-- A connection that is served. -/
structure Serving where
  channel : Channel
  /-- What is about to be done on it. -/
  task : Task Ending
  /-- What was exchanged on it. -/
  journal : Journal := []

namespace Serving

/-- A connection that was just accepted. -/
def accepted (node : NodeId) (ch : Channel) : Serving where
  channel := ch
  task := (Job.opening node ch).round

/-- An act was answered, and this is left to do. -/
def answered (c : Serving) (a : Act) (r : a.Reply) (rest : Task Ending) : Serving :=
  { c with task := resumed rest, journal := c.journal ++ [⟨a, r⟩] }

/-- What becomes of a connection, however the acts of its task are answered. -/
inductive Reached (node : NodeId) (ch : Channel) : Serving → Prop where
  | accepted : Reached node ch (.accepted node ch)
  | answered {c : Serving} {a : Act} {next : a.Reply → Task Ending} (h : Reached node ch c)
      (asks : c.task = .ask a next) (r : a.Reply) (allowed : a.Allows r) :
      Reached node ch (c.answered a r (next r))

/-- The journal is that of a course, wherever the task goes on from here. -/
structure Kept (node : NodeId) (c : Serving) : Prop where
  allowed : ∀ x ∈ c.journal, x.1.Allows x.2
  course : Keeps Journal.Grows (Asked node c.channel) (Rested node c.channel) c.task c.journal

/-- A task goes on with the next round. -/
theorem resumed_runs {node : NodeId} {ch : Channel} {task : Task Ending} {j : Journal}
    (h : Keeps Journal.Grows (Asked node ch) (Rested node ch) task j) :
    Keeps Journal.Grows (Asked node ch) (Rested node ch) (resumed task) j := by
  cases task with
  | ask => exact h
  | done e =>
    rcases h with ⟨s, course, idle, rfl⟩ | ⟨s, why, course, gone, rfl⟩
    · exact round_runs course idle
    · exact .inr ⟨s, why, course, gone, rfl⟩

namespace Kept

variable {node : NodeId} {c : Serving}

theorem accepted (node : NodeId) (ch : Channel) : Kept node (.accepted node ch) where
  allowed := fun _ mem => nomatch mem
  course := opening_runs node ch

/-- One act. -/
theorem answered (h : c.Kept node) {a : Act} {next : a.Reply → Task Ending}
    (asks : c.task = .ask a next) {r : a.Reply} (allowed : a.Allows r) :
    (c.answered a r (next r)).Kept node where
  allowed := by
    intro x mem
    rcases List.mem_append.mp mem with mem | mem
    · exact h.allowed x mem
    · obtain rfl := List.mem_singleton.mp mem
      exact allowed
  course := by
    have course := h.course
    rw [asks] at course
    exact resumed_runs (course.2 r _ ⟨allowed, rfl⟩)

/-- Whatever was exchanged so far has a course. -/
theorem exists_course (h : c.Kept node) : ∃ s, Course node c.channel c.journal s := by
  obtain ⟨ch, task, j⟩ := c
  have course : Keeps Journal.Grows (Asked node ch) (Rested node ch) task j := h.course
  cases task with
  | ask =>
    obtain ⟨s, course, -⟩ := course.1
    exact ⟨s, course⟩
  | done =>
    rcases course with ⟨s, course, -⟩ | ⟨s, -, course, -⟩ <;> exact ⟨s, course⟩

end Kept

/-- A connection keeps its channel, and its journal is that of a course. -/
theorem Reached.kept {node : NodeId} {ch : Channel} {c : Serving} (h : Reached node ch c) :
    c.channel = ch ∧ c.Kept node := by
  induction h with
  | accepted => exact ⟨rfl, .accepted node ch⟩
  | answered _ asks r allowed ih => exact ⟨ih.1, ih.2.answered asks allowed⟩

end Serving

end Server

end DeviceRpc
