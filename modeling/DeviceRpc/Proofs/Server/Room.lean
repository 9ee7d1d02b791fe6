import DeviceRpc.Proofs.Dispatch.Decision
import DeviceRpc.Proofs.Link.Reading
import DeviceRpc.Proofs.Server.Course

/-!
# Room in the envelope

A connection is served in one envelope, and it is the client that says how much payload a request
has. What it says is looked at before the envelope grows: it has room for the default, for the limit
or for the longest status that a unit gave on this connection, and never for more
(`Serving.room_bounded`). That holds at every moment, whatever bytes come. Room once made is kept.

Only two things make room. A payload within the limit is received where there is room for it, and a
status is written where there is room for that; no other command changes how much room there is
(`Pdu.dispatch_room`), and nothing that a client can say makes a status longer than the unit gives
it. Memory for room within these bounds is taken to be granted (`Packet.memoryLimit`).
-/

namespace DeviceRpc

open Packet (IsFrame announced)
open Prog (Goes Runs)

/-! ## Room -/

namespace Packet

theorem capacity_roomFor (n : Nat) (p : Packet) : (p.roomFor n).capacity = max p.capacity n :=
  Bytes.length_grow ..

theorem capacity_poke {p : Packet} {bs : Bytes} (fits : bs.length ≤ p.capacity) :
    (p.poke 0 bs).capacity = p.capacity :=
  Bytes.length_splice (by rwa [Nat.zero_add])

theorem capacity_withPayload (bs : Bytes) (p : Packet) :
    (p.withPayload bs).capacity = max p.capacity bs.length := by
  have grown := Bytes.length_grow bs.length p.trailing
  have fits : 0 + bs.length ≤ (Bytes.grow bs.length p.trailing).length := by omega
  exact (Bytes.length_splice fits).trans grown

theorem capacity_receive (header payload : Bytes) (p : Packet) :
    (p.receive header payload).capacity = max p.capacity payload.length :=
  capacity_withPayload payload p

end Packet

/-- A transfer gives no more than it wants. -/
theorem receiveExactly_length {h : Handle} {limit : Option Instant} (want : Nat) :
    ∀ {got : Bytes} {acts : Journal} {r : Bytes × Option LinkFailure},
      Runs (receiveExactly h limit Channel.unnoted want got) acts r →
      (∀ x ∈ acts, x.1.Allows x.2) → r.1.length ≤ got.length + want := by
  induction want using Nat.strongRecOn with
  | ind want ih =>
    intro got acts r runs allowed
    cases want with
    | zero =>
      unfold receiveExactly at runs
      rw [runs.of_done.2]
      exact Nat.le_refl _
    | succ want =>
      unfold receiveExactly at runs
      cases runs with
      | ask answer rest =>
        have here := allowed _ (List.mem_cons_self ..)
        have later := fun x mem => allowed x (List.mem_cons_of_mem _ mem)
        cases answer with
        | bytes first more =>
          have few : more.length < max (want + 1) 1 := here
          have short := ih _ (Nat.lt_succ_of_le (Nat.sub_le ..)) rest later
          rw [List.length_append, List.length_cons] at short
          omega
        | ended | reset | late =>
          rw [rest.of_done.2]
          exact Nat.le_add_right ..

theorem Channel.transfer_length {ch : Channel} {n : Nat} {acts : Journal}
    {r : Bytes × Option LinkFailure} (runs : Runs (ch.transfer n) acts r)
    (allowed : ∀ x ∈ acts, x.1.Allows x.2) : r.1.length ≤ n := by
  obtain ⟨_, _, limit, rfl, -, rest⟩ := Runs.of_bind runs
  have short := receiveExactly_length n rest fun x mem => allowed x (List.mem_append_right _ mem)
  rwa [List.length_nil, Nat.zero_add] at short

/-! ## Commands -/

namespace Pdu

/-- What a handler writes makes the packet, or the packet stays as it is. -/
theorem answering_runs {α : Type} {query : Object → Packet → Task (Except ErrorCode α)}
    {write : α → Packet → Except Failure Packet} {object : Object} {p : Packet} {acts : Journal}
    {r : Packet × Except ErrorCode Unit} (runs : Runs (answering query write object p) acts r) :
    (∃ a q, write a p = .ok q ∧ r = (q, .ok ())) ∨ ∃ code, r = (p, .error code) := by
  rw [answering_eq] at runs
  obtain ⟨_, _, answer, -, -, rest⟩ := Runs.of_bind runs
  rw [rest.of_done.2]
  cases answer with
  | error code => exact .inr ⟨code, rfl⟩
  | ok a =>
    simp only [written]
    cases result : write a p with
    | error e => exact .inr ⟨e.code, rfl⟩
    | ok q => exact .inl ⟨a, q, result, rfl⟩

/-- What only writes into the header makes no room. -/
theorem answering_same {α : Type} {query : Object → Packet → Task (Except ErrorCode α)}
    {write : α → Packet → Except Failure Packet} {object : Object} {p : Packet} {acts : Journal}
    {r : Packet × Except ErrorCode Unit} (runs : Runs (answering query write object p) acts r)
    (same : ∀ a q, write a p = .ok q → q.capacity = p.capacity) : r.1.capacity = p.capacity := by
  rcases answering_runs runs with ⟨a, q, result, rfl⟩ | ⟨code, rfl⟩
  · exact same a q result
  · rfl

theorem readStatus_room {object : Object} {p : Packet} {acts : Journal}
    {r : Packet × Except ErrorCode Unit} (runs : Runs (readStatus object p) acts r) :
    r.1.capacity = p.capacity ∨
      r.2 = .ok () ∧ r.1.capacity = max p.capacity r.1.payload.length := by
  rcases answering_runs runs with ⟨bs, q, result, rfl⟩ | ⟨code, rfl⟩
  · by_cases counted : (cut p.limit bs).length < UInt32.size
    · rw [Packet.setPayload_of_lt counted] at result
      cases result
      refine .inr ⟨rfl, ?_⟩
      rw [Packet.payload_withPayload counted]
      exact Packet.capacity_withPayload ..
    · rw [Packet.setPayload_of_le (Nat.not_lt.mp counted)] at result
      cases result
  · exact .inl rfl

/-- Only the status makes room, and only for itself. -/
theorem handler_room {handler : Handler Object} {object : Object} {p : Packet} {acts : Journal}
    {r : Packet × Except ErrorCode Unit} (row : table.row? p.command = some (.object handler))
    (runs : Runs (handler object p) acts r) :
    r.1.capacity = p.capacity ∨
      p.command = status ∧ r.2 = .ok () ∧ r.1.capacity = max p.capacity r.1.payload.length := by
  have handles := handles_of_row? row
  generalize p.command = command at handles
  cases handles with
  | turnOn | turnOff | voltage | current | voltageCurrent | channelOf =>
    refine .inl (answering_same runs ?_)
    rintro _ _ ⟨⟩
    rfl
  | status => exact (readStatus_room runs).imp_right fun here => ⟨rfl, here⟩
  | inspect =>
    obtain ⟨_, _, result, -, -, rest⟩ := Runs.of_bind runs
    rw [rest.of_done.2]
    exact .inl rfl
  | register =>
    obtain ⟨_, _, result, -, -, rest⟩ := Runs.of_bind runs
    cases result with
    | ok =>
      rw [rest.of_done.2]
      exact .inl rfl
    | error code =>
      obtain ⟨_, _, result, -, -, rest⟩ := Runs.of_bind rest
      rw [rest.of_done.2]
      exact .inl rfl

/-- **Requests make no room**, except that a status has as much as it takes. -/
theorem dispatch_room {registry : Registry Object} {p reply : Packet} {acts : Journal}
    (runs : Runs (service.dispatch registry p) acts reply) :
    reply.capacity = p.capacity ∨
      p.command = status ∧ reply.capacity = max p.capacity reply.payload.length := by
  have decided := Service.decides_verdict service registry p
  rw [Service.dispatch_eq_answer] at runs
  generalize service.verdict registry p = v at decided runs
  cases v with
  | refused index number =>
    rw [runs.of_done.2]
    exact .inl rfl
  | found index =>
    rw [runs.of_done.2]
    exact .inl rfl
  | runs handler object index =>
    obtain ⟨q, outcome, handled, rfl⟩ := Verdict.of_answer_runs runs
    rcases handler_room (p := { p with index }) decided.row handled with same | ⟨command, ok, room⟩
    · left
      cases outcome <;> exact same
    · right
      cases ok
      exact ⟨command, room⟩

end Pdu

namespace Server

/-! ## Envelopes of a connection -/

/-- The longest status that was sent. -/
def longestStatus : List Answered → Nat
  | [] => 0
  | d :: rest =>
    max (if d.request.command = Pdu.status then d.reply.payload.length else 0) (longestStatus rest)

theorem longestStatus_concat (answered : List Answered) (d : Answered) :
    longestStatus (answered ++ [d]) = max (longestStatus answered)
      (if d.request.command = Pdu.status then d.reply.payload.length else 0) := by
  induction answered with
  | nil => exact Nat.max_comm ..
  | cons e answered ih => rw [List.cons_append, longestStatus, longestStatus, ih, Nat.max_assoc]

namespace Story

/-- The envelopes that there were until now, in their order. -/
def envelopes (s : Story) : List Packet := s.past ++ [s.envelope]

/-- As much room as there may be: the default, the limit, or the longest status. -/
def limit (ch : Channel) (s : Story) : Nat :=
  max Packet.defaultCapacity (max ch.options.maxPayload (longestStatus s.answered))

end Story

/-- There was never more room than there may be, and it was never less than before. -/
structure Roomy (ch : Channel) (s : Story) : Prop where
  bounded : ∀ p ∈ s.envelopes, p.capacity ≤ s.limit ch
  grows : (s.envelopes.map Packet.capacity).Pairwise (· ≤ ·)

namespace Roomy

variable {ch : Channel} {s s' : Story}

theorem envelope (h : Roomy ch s) : s.envelope.capacity ≤ s.limit ch :=
  h.bounded _ (List.mem_append_right _ (List.mem_singleton_self _))

/-- Another envelope with at least as much room. -/
theorem next (h : Roomy ch s) (past : s'.past = s.past ++ [s.envelope])
    (higher : s.limit ch ≤ s'.limit ch) (more : s.envelope.capacity ≤ s'.envelope.capacity)
    (fits : s'.envelope.capacity ≤ s'.limit ch) : Roomy ch s' := by
  have envelopes : s'.envelopes = s.envelopes ++ [s'.envelope] := by rw [Story.envelopes, past]; rfl
  refine ⟨?_, ?_⟩
  · rw [envelopes]
    intro p mem
    rcases List.mem_append.mp mem with mem | mem
    · exact Nat.le_trans (h.bounded p mem) higher
    · obtain rfl := List.mem_singleton.mp mem
      exact fits
  · rw [envelopes, List.map_append, List.map_singleton]
    refine List.pairwise_append.mpr ⟨h.grows, List.pairwise_singleton .., ?_⟩
    intro n mem n' mem'
    obtain rfl := List.mem_singleton.mp mem'
    -- whatever room there was before is at most that of the last envelope
    have grows := h.grows
    rw [Story.envelopes, List.map_append, List.map_singleton] at grows mem
    rcases List.mem_append.mp mem with mem | mem
    · exact Nat.le_trans ((List.pairwise_append.mp grows).2.2 n mem _ (List.mem_singleton_self _))
        more
    · obtain rfl := List.mem_singleton.mp mem
      exact more

/-- Another envelope with room for something within the limit. -/
theorem turned (h : Roomy ch s) {m : Moment} {p : Packet} {n : Nat}
    (room : p.capacity = max s.envelope.capacity n) (few : n ≤ s.limit ch) :
    Roomy ch (s.turned m p) :=
  h.next rfl (Nat.le_refl _) (by rw [Story.turned, room]; omega)
    (by show p.capacity ≤ s.limit ch; have envelope := h.envelope; omega)

/-- Another envelope with as much room. -/
theorem same (h : Roomy ch s) {m : Moment} {p : Packet}
    (room : p.capacity = s.envelope.capacity) : Roomy ch (s.turned m p) :=
  h.turned (n := 0) (by rw [room]; exact (Nat.max_zero _).symm) (Nat.zero_le _)

end Roomy

variable {node : NodeId} {ch : Channel} {j : Journal} {s : Story}

/-- Where a payload is about to be received, there is room for it. -/
theorem Course.announced_room (h : Course node ch j s) (announced : s.moment = .announced) :
    s.envelope.length.toNat ≤ s.envelope.capacity := by
  cases h with
  | announced _ _ _ _ few =>
    show _ ≤ (Packet.roomFor _ _).capacity
    rw [Packet.capacity_roomFor]
    exact Nat.le_max_right ..
  | @unheard _ _ _ e => cases e <;> cases announced
  | @unfilled _ _ _ _ e => cases e <;> cases announced
  | _ => cases announced

/-- **Envelopes have no more room than they may** in any course. -/
theorem Course.roomy (h : Course node ch j s) (allowed : ∀ x ∈ j, x.1.Allows x.2) : Roomy ch s := by
  have part {j acts : Journal} (allowed : ∀ x ∈ j ++ acts, x.1.Allows x.2) :
      (∀ x ∈ j, x.1.Allows x.2) ∧ ∀ x ∈ acts, x.1.Allows x.2 :=
    List.forall_mem_append.mp allowed
  induction h with
  | accepted | opened =>
    refine ⟨?_, List.pairwise_singleton ..⟩
    intro p mem
    obtain rfl := List.mem_singleton.mp mem
    have size : Packet.empty.capacity = Packet.defaultCapacity := List.length_replicate
    exact Nat.le_trans (Nat.le_of_eq size) (Nat.le_max_left ..)
  | bare _ _ _ _ ih | oversize _ _ _ _ ih => exact (ih (part allowed).1).same rfl
  | announced _ _ _ _ few ih =>
    refine (ih (part allowed).1).turned (Packet.capacity_roomFor ..) ?_
    exact Nat.le_trans few (Nat.le_trans (Nat.le_max_left ..) (Nat.le_max_right ..))
  | filled course room runs ih | unfilled course room runs ih =>
    refine (ih (part allowed).1).same (Packet.capacity_poke ?_)
    exact Nat.le_trans (Channel.transfer_length runs (part allowed).2) (course.announced_room room)
  | refusing _ _ ih => exact (ih (part allowed).1).same rfl
  | @returned j acts s registry reply _ _ runs ih =>
    have roomy := ih (part allowed).1
    have longest : longestStatus (s.answered ++ [⟨s.envelope, reply⟩])
        = max (longestStatus s.answered)
          (if s.envelope.command = Pdu.status then reply.payload.length else 0) :=
      longestStatus_concat ..
    have higher : s.limit ch ≤ (s.answers reply).limit ch := by
      show max _ (max _ _) ≤ max _ (max _ (longestStatus (s.answered ++ _)))
      omega
    have envelope := Nat.le_trans roomy.envelope higher
    refine roomy.next rfl higher ?_ ?_
    · show s.envelope.capacity ≤ reply.capacity
      rcases Pdu.dispatch_room runs with same | ⟨-, room⟩ <;> omega
    · show reply.capacity ≤ _
      rcases Pdu.dispatch_room runs with same | ⟨command, room⟩
      · omega
      · rw [if_pos command] at longest
        have sent : reply.payload.length ≤ (s.answers reply).limit ch := by
          show _ ≤ max _ (max _ (longestStatus (s.answered ++ _)))
          omega
        omega
  | heading _ _ _ ih | unheard _ _ _ ih | receiving _ _ _ ih | started _ _ _ ih
  | offered _ _ _ _ ih | dispatching _ _ _ ih | measured _ _ _ ih | counted _ _ _ _ ih
  | replied _ _ ih | unsent _ _ _ ih | refused _ _ _ ih | failed _ _ ih | parting _ _ ih
  | gone _ _ ih =>
    exact ⟨(ih (part allowed).1).bounded, (ih (part allowed).1).grows⟩

/-! ## Headers -/

/-- A request that announces more than the limit is refused for its header alone, in an envelope
with as much room as before. -/
def Refuses (ch : Channel) : Prop :=
  ∀ p acts header, Runs ch.readHeader acts (.ok header) →
    ch.options.maxPayload < (announced header).toNat →
      Runs (ch.readRequest p) acts
          (p.readHeader header, .error (.tooLarge (announced header).toNat)) ∧
        (p.readHeader header).capacity = p.capacity

/-- A request with a payload of just the limit is read, wherever its bytes come from. -/
def Accepts (ch : Channel) : Prop :=
  ∀ {τ : Type} {M : Machine τ} {I : τ → Prop} {S : Bytes → τ → Prop}, Reads M I ch.handle S →
    ∀ p {header payload left t}, IsFrame header payload → payload.length = ch.options.maxPayload →
      S (header ++ (payload ++ left)) t →
        EndsWithin M I (fun r t' => r = (p.receive header payload, .ok ()) ∧ S left t')
            (ch.readRequest p) t ∧
          (p.receive header payload).capacity = max p.capacity ch.options.maxPayload

theorem refuses (ch : Channel) : Refuses ch :=
  fun _ _ _ runs many => ⟨Channel.readRequest_oversize runs many, rfl⟩

theorem accepts (ch : Channel) : Accepts ch := by
  intro τ M I S reads p header payload left t frame size hS
  refine ⟨reads.readRequest frame (Nat.le_of_eq size) hS, ?_⟩
  rw [Packet.capacity_receive, size]

/-! ## Every moment -/

/-- The next request is read into the envelope that the course has come to. -/
def Serving.HandsOn (node : NodeId) (c : Serving) : Prop :=
  ∀ {a : Act} {next : a.Reply → Task Ending} {r : a.Reply} {job : Job}, c.task = .ask a next →
    a.Allows r → next r = .done (.become job) →
      ∃ s, Course node c.channel (c.journal ++ [⟨a, r⟩]) s ∧
        job = .connection node c.channel s.envelope

theorem Serving.Kept.handsOn {c : Serving} (h : c.Kept node) : c.HandsOn node := by
  intro a next r job asks allowed becomes
  have course := h.course
  rw [asks] at course
  have rested := course.2 r _ ⟨allowed, rfl⟩
  rw [becomes] at rested
  rcases rested with ⟨s, course, -, ⟨⟩⟩ | ⟨_, _, _, _, ⟨⟩⟩
  exact ⟨s, course, rfl⟩

/-- **The room in an envelope is bounded**: whatever a client sends and however its connection
fails, there is at every moment a course that tells of it, in each such course no envelope had more
room than the default, the limit or the longest status on this connection, and room was never taken
away. What announces more than the limit makes no room, and a payload of just the limit is read. -/
theorem Serving.room_bounded {c : Serving} (h : Serving.Reached node ch c) :
    (∃ s, Course node ch c.journal s) ∧ (∀ s, Course node ch c.journal s → Roomy ch s) ∧
      c.HandsOn node ∧ Refuses ch ∧ Accepts ch := by
  obtain ⟨rfl, kept⟩ := h.kept
  exact ⟨kept.exists_course, fun _ course => course.roomy kept.allowed, kept.handsOn, refuses _,
    accepts _⟩

/-! ## A header that announces too much -/

/-- What still has something to ask is not resumed. -/
theorem resumed_of_goes {task : Task Ending} {acts : Journal} {a : Act}
    {next : a.Reply → Task Ending} (goes : Goes task acts (.ask a next)) : resumed task = task := by
  cases task with
  | ask => rfl
  | done => cases goes

/-- A connection on which a part of its task was carried out. -/
theorem Serving.Reached.goes {a : Act} {next : a.Reply → Task Ending} :
    ∀ {acts : Journal} {c : Serving}, Serving.Reached node ch c →
      Goes c.task acts (.ask a next) → (∀ x ∈ acts, x.1.Allows x.2) →
      Serving.Reached node ch { c with task := .ask a next, journal := c.journal ++ acts }
  | [], ⟨channel, task, j⟩, h, goes, _ => by
    rw [List.append_nil]
    cases goes with
    | refl => exact h
  | ⟨b, answer⟩ :: acts, ⟨channel, task, j⟩, h, goes, allowed => by
    cases goes with
    | @ask _ rest _ _ _ more =>
      obtain ⟨here, later⟩ := List.forall_mem_cons.mp allowed
      have reached := h.answered rfl answer here
      unfold Serving.answered at reached
      rw [resumed_of_goes more] at reached
      have rest := Serving.Reached.goes reached more later
      rwa [List.append_assoc] at rest

/-- A header that announces four gigabytes makes no room for them. -/
theorem Serving.room_bounded_oversize :
    ∃ c next, Serving.Reached 0 ⟨.server, {}⟩ c ∧
      c.task = .ask (.record 0 (.linkFailed "too_large")) next ∧
      (∃ s, Course 0 ⟨.server, {}⟩ c.journal s) ∧
      (∀ s, Course 0 ⟨.server, {}⟩ c.journal s → Roomy ⟨.server, {}⟩ s) ∧
      c.HandsOn 0 ∧ Refuses ⟨.server, {}⟩ ∧ Accepts ⟨.server, {}⟩ := by
  have header := Channel.readHeader_pieces .server {} rfl 0 0 (List.replicate 30 0xFF) rfl
  obtain ⟨read, -⟩ := refuses ⟨.server, {}⟩ .empty _ _ header (by decide)
  have opened : Serving.Reached 0 ⟨.server, {}⟩ _ :=
    Serving.Reached.accepted.answered rfl () trivial
  have small : 0 < max 1 1 := by decide
  have short : 30 < max (headerSize - 1) 1 := by decide
  have refused := opened.goes read.goes.bind.bind
    (List.forall_mem_cons.mpr ⟨small, List.forall_mem_singleton.mpr short⟩)
  exact ⟨_, _, refused, rfl, Serving.room_bounded refused⟩

end Server

end DeviceRpc
