import DeviceRpc.Proofs.Relay.Chain
import DeviceRpc.Proofs.Relay.Reliable

/-!
# Whose answer it is

An operation that comes to an answer has it from the reply to the last frame that it sent. This is
followed to the other side here: the server of that connection read this very frame, in this place
among the frames of the connection, and what it replied is what the operation read
(`Far.Serves.replied`). A reply that says success means that the inquiry was carried out
(`Journal.Round.executed`).

**Nobody else's answer.** In every site that can be reached, an operation sends its inquiry no more
than twice and reconnects no more than once, and its answer is its own (`Site.answers_own`). A frame
has its place on a connection to itself, so a reply that comes late, or to somebody else, is never
taken for it.
-/

namespace DeviceRpc

open Packet (IsFramed Same)
open Journal (Round)

/-! ## What the server did -/

namespace ErrorCode

/-- The one code that a reply cannot tell from success. -/
theorem eq_unknown_zero {code : ErrorCode} (h : code.number = 0) : code = .unknown 0 := by
  cases code with
  | unknown number => exact congrArg _ h
  | _ => exact absurd h (by decide)

end ErrorCode

theorem Failure.number_ne_zero (e : Failure) : e.code.number ≠ 0 := by
  cases e <;> simp only [code] <;> decide

namespace Inquiry

variable {q : Inquiry} {p p' : Packet}

theorem asked_same (same : Same p p') (h : q.Asked p) : q.Asked p' := by
  cases q with
  | switch | voltage | current | voltageCurrent =>
    exact ⟨same.command ▸ h.1, same.channel ▸ h.2⟩
  | status | inspect => exact same.command.symm.trans h
  | channelOf name => exact ⟨same.command ▸ h.1, same.name ▸ h.2⟩

/-- What a client writes asks the inquiry. -/
theorem Written.asked {n : Nat} (h : q.Written p) (admits : q.Admits n) : q.Asked p := by
  obtain ⟨p', -, command, channel, -, empty, filled⟩ := h
  obtain ⟨p'', filled', asked, -⟩ := fill_asked admits command channel empty
  cases filled.symm.trans filled'
  exact asked

end Inquiry

namespace Service

variable {ω : Type} {registry : Registry ω} {p p' : Packet}

theorem namedIndex_error {code : ErrorCode} (h : namedIndex registry p = .error code) :
    code.number ≠ 0 := by
  rw [namedIndex] at h
  split at h
  · cases h
    exact Failure.number_ne_zero _
  · split at h <;> cases h
    decide

theorem addressed_error {code : ErrorCode} (h : addressed registry p = .error code) :
    code.number ≠ 0 := by
  rw [addressed] at h
  split at h
  · cases named : namedIndex registry p with
    | error code' =>
      rw [named] at h
      cases h
      exact namedIndex_error named
    | ok index =>
      rw [named] at h
      cases h
  · cases h

theorem addressed_ok (h : addressed registry p = .ok p') : ∃ i, p' = p.withIndex i := by
  rw [addressed] at h
  split at h
  · cases named : namedIndex registry p with
    | error code =>
      rw [named] at h
      cases h
    | ok index =>
      rw [named] at h
      cases h
      exact ⟨index, rfl⟩
  · cases h
    exact ⟨p.index, rfl⟩

/-- A command for objects that is answered with success was given to the object that the request is
addressed to. -/
theorem dispatch_success {s : Service ω} {acts : List (Prog.Exchange Act.Reply)}
    {handler : Handler ω} (row : s.table.row? p.command = some (.object handler))
    (runs : (s.dispatch registry p).Runs acts p') (good : p'.errorCode = 0) :
    ∃ i o outcome, addressed registry p = .ok (p.withIndex i) ∧ registry.object? i = some o ∧
      (handler o (p.withIndex i)).Runs acts outcome ∧ p' = reply outcome := by
  obtain ⟨acts', rest, outcome, rfl, handled, replied⟩ := Prog.Runs.of_bind runs
  obtain ⟨rfl, rfl⟩ := replied.of_done
  rw [List.append_nil]
  -- what fails has a number other than zero
  have failed {p : Packet} {code : ErrorCode} (numbered : code.number ≠ 0)
      (h : Prog.Runs (.done (p, .error code)) acts' outcome) : False := by
    obtain ⟨-, rfl⟩ := h.of_done
    exact numbered good
  rw [handle, row] at handled
  split at handled
  · exact (failed (by decide) handled).elim
  · simp only at handled
    split at handled
    · exact (failed (by decide) handled).elim
    · split at handled
      next code lost => exact (failed (addressed_error lost) handled).elim
      next p' found =>
        obtain ⟨i, rfl⟩ := addressed_ok found
        split at handled
        next o object => exact ⟨i, o, outcome, found, object, handled, rfl⟩
        next => exact (failed (by decide) handled).elim

end Service

/-- The inquiry was carried out: it was asked of the object that the request is addressed to, and
came to an end that the reply calls success. -/
def Journal.Round.Executed (d : Round) (q : Inquiry) : Prop :=
  ∃ p o r, Service.addressed d.registry d.request = .ok p ∧ d.registry.object? p.index = some o ∧
    (q.ask o).Runs d.acts r ∧ ∀ code, r = .error code → code = .unknown 0

/-- A request that asks an inquiry and is answered with success was carried out. -/
theorem Journal.Round.Within.executed {d : Round} {j : Journal} {q : Inquiry} (h : d.Within j)
    (asked : q.Asked d.request) (good : d.reply.errorCode = 0) : d.Executed q := by
  obtain ⟨handler, row, -⟩ := Inquiry.row_asked asked
  obtain ⟨i, o, outcome, addressed, object, handled, replied⟩ :=
    Service.dispatch_success (s := Pdu.service) row h.runs good
  obtain ⟨handler', row', asks⟩ := Inquiry.row_asked (Inquiry.asked_withIndex asked i)
  cases row.symm.trans row'
  rw [asks] at handled
  obtain ⟨acts, rest, r, all, runs, wrote⟩ := Prog.Runs.of_bind handled
  obtain ⟨rfl, rfl⟩ := wrote.of_done
  rw [List.append_nil] at all
  refine ⟨_, o, r, addressed, object, all ▸ runs, ?_⟩
  rintro code rfl
  have number : d.reply.errorCode = code.number := congrArg Packet.errorCode replied
  exact ErrorCode.eq_unknown_zero (number.symm.trans good)

/-! ## Frame by frame -/

/-- The server carried this frame out, as the request in this place. -/
structure Far.Replied (f : Far) (x : Sending) (d : Round) : Prop where
  told : ∃ rounds, f.journal.Told rounds ∧ rounds[x.place]? = some d
  bytes : d.bytes = x.frame

/-- What a client reads as a success in the place of its frame, the server replied to that frame. -/
theorem Far.Serves.replied {f : Far} {l : Line} {x : Sending} {reply : Packet} (h : f.Serves l)
    (answered : x.Answered reply l) (good : reply.errorCode = 0) :
    ∃ d, f.Replied x d ∧ Same reply d.reply := by
  obtain ⟨rounds, told⟩ := h.told
  obtain ⟨call, replies, frame, framed, got, place, read⟩ := answered
  have sent_framed : ∀ g ∈ f.journal.sent, IsFramed g := by
    have frames : ∀ g ∈ rounds.map Round.frame, IsFramed g := by
      intro g mem
      obtain ⟨d, inside, rfl⟩ := List.mem_map.mp mem
      exact (told.within d inside).whole.isFramed
    rcases told.sent with sent | ⟨p, sent⟩
    · exact sent ▸ frames
    · intro g mem
      rw [sent] at mem
      rcases List.mem_append.mp mem with mem | mem
      · exact frames g mem
      · obtain rfl := List.mem_singleton.mp mem
        exact (Server.refusal_whole p).isFramed
  -- replies come as they were sent, and requests as they were made
  have came : replies <+: f.journal.sent :=
    Packet.framed_prefix framed sent_framed ((got.trans h.got).trans h.wrote)
  have went : rounds.map Round.bytes <+: l.calls := by
    refine Packet.framed_prefix ?_ h.framed.calls
      ((told.taken.trans h.received).trans h.framed.wrote)
    intro g mem
    obtain ⟨d, inside, rfl⟩ := List.mem_map.mp mem
    exact (told.within d inside).read.framed
  have replied : f.journal.sent[x.place]? = some frame := by
    obtain ⟨rest, same⟩ := came
    rw [← same, List.getElem?_append_left (List.getElem?_eq_some_iff.mp place).1, place]
  have round (here : (rounds.map Round.frame)[x.place]? = some frame) :
      ∃ d, f.Replied x d ∧ Same reply d.reply := by
    rw [List.getElem?_map, Option.map_eq_some_iff] at here
    obtain ⟨d, at', same⟩ := here
    have within := told.within d (List.mem_of_getElem? at')
    refine ⟨d, ⟨⟨rounds, told, at'⟩, ?_⟩, read.same d.reply within.whole same⟩
    obtain ⟨rest, calls⟩ := went
    have first : (rounds.map Round.bytes)[x.place]? = some d.bytes := by
      rw [List.getElem?_map, at']
      rfl
    rw [← calls, List.getElem?_append_left (List.getElem?_eq_some_iff.mp first).1, first] at call
    exact Option.some.inj call
  rcases told.sent with sent | ⟨p, sent⟩
  · exact round (sent ▸ replied)
  · by_cases inside : x.place < (rounds.map Round.frame).length
    · rw [sent, List.getElem?_append_left inside] at replied
      exact round replied
    · -- a refusal is no success
      rw [sent, List.getElem?_append_right (Nat.not_lt.mp inside)] at replied
      have refused : (Server.refusal p).frame = frame :=
        List.mem_singleton.mp (List.mem_of_getElem? replied) |>.symm
      have same := read.same _ (Server.refusal_whole p) refused
      have code : ErrorCode.outOfMemory.number = 0 := same.errorCode.symm.trans good
      exact absurd code (by decide)

/-! ## Whose answer it is -/

/-- The operation has its answer from the reply to the last frame that it sent: the frame makes its
own inquiry, the server of the connection carried it out in its place, and nobody else has sent
anything in that place. -/
structure Site.Obtained (s : Site) (k : Nat) (o : Operation) (v : o.inquiry.Answer) (x : Sending)
    (d : Round) : Prop where
  last : o.log.sent.getLast? = some x
  dialed : x.line < s.dialed
  call : (s.line x.line).calls[x.place]? = some x.frame
  asks : ∃ request, o.inquiry.Written request ∧ request.frame = x.frame ∧ Same d.request request
  replied : (s.far x.line).Replied x d
  good : d.reply.errorCode = 0
  read : v = o.inquiry.read d.reply
  alone : ∀ k' o', k' ≠ k → s.op k' = some o' → ∀ y ∈ o'.log.sent, y.line = x.line → y.place ≠ x.place

namespace Operation.Stage

variable {cell : CellId} {s : Site} {k : Nat} {o : Operation}

theorem modest (h : o.Stage cell s k) : o.log.Modest o.inquiry := by
  cases h with
  | waiting _ _ log =>
    rw [log]
    exact ⟨Nat.zero_le _, Nat.zero_le _, Nat.zero_le _⟩
  | @inside p _ _ keeps =>
    cases p with
    | ask a next => exact keeps.1.modest
    | done r =>
      have done : (s.desk o.log).Done cell o.inquiry r := keeps
      exact done.modest
  | ended _ _ modest => exact modest

theorem answered (h : o.Stage cell s k) {v : o.inquiry.Answer} (done : o.task = .done (.ok v)) :
    ∃ reply, (s.desk o.log).Answered o.inquiry reply ∧ v = o.inquiry.read reply := by
  cases h with
  | waiting _ task =>
    have asked := task.symm.trans done
    rw [Inquiry.operation_relay, Driver.forward_eq] at asked
    cases asked
  | @inside p _ task =>
    -- it has the lock until it gives it back
    have asked := task.symm.trans done
    cases p <;> cases asked
  | ended _ task _ answered =>
    have same := task.symm.trans done
    cases same
    exact answered v rfl

end Operation.Stage

namespace Site

variable {cell : CellId} {endpoint : Endpoint} {options : LinkOptions} {name : String} {s : Site}
  {k : Nat} {o : Operation}

theorem Sound.obtained (h : s.Sound cell) (here : s.op k = some o) {v : o.inquiry.Answer}
    (done : o.task = .done (.ok v)) : ∃ x d, s.Obtained k o v x d := by
  obtain ⟨reply, ⟨x, request, last, dialed, answered, written, frame, good⟩, value⟩ :=
    (h.stage k o here).answered done
  obtain ⟨d, replied, same⟩ := (h.serves x.line dialed).replied answered good
  obtain ⟨rounds, told, place⟩ := replied.told
  have read := (told.within d (List.mem_of_getElem? place)).read
  have request_same : Same d.request request :=
    read.same request written.like.2.2.2 (frame.trans replied.bytes.symm)
  refine ⟨x, d, last, dialed, answered.call, ⟨request, written, frame, request_same⟩, replied,
    same.errorCode.symm.trans good, value.trans (o.inquiry.read_same same), ?_⟩
  intro k' o' other here' y mem line
  exact h.places.apart k' k o' o other here' here y mem x (List.mem_of_getLast? last) line

/-- What an operation comes to as its answer was carried out for it. -/
theorem Obtained.executed {v : o.inquiry.Answer} {x : Sending} {d : Round}
    (h : s.Obtained k o v x d) {n : Nat} (admits : o.inquiry.Admits n) : d.Executed o.inquiry := by
  obtain ⟨request, written, -, same⟩ := h.asks
  obtain ⟨rounds, told, place⟩ := h.replied.told
  exact (told.within d (List.mem_of_getElem? place)).executed
    (Inquiry.asked_same same.symm (written.asked admits)) h.good

/-- However many operations use a relay, in whatever order they and the servers behind it go on, and
whatever the network does: an operation sends its inquiry at most twice and reconnects at most once,
and if it comes to an answer, the answer was made for it. -/
theorem answers_own (reached : Reached cell (start cell endpoint options name) s)
    (here : s.op k = some o) :
    o.log.Modest o.inquiry ∧ ∀ v, o.task = .done (.ok v) → ∃ x d, s.Obtained k o v x d ∧
      ∀ n, o.inquiry.Admits n → d.Executed o.inquiry := by
  have sound := reached.sound
  refine ⟨(sound.stage k o here).modest, fun v done => ?_⟩
  obtain ⟨x, d, obtained⟩ := sound.obtained here done
  exact ⟨x, d, obtained, fun n => obtained.executed⟩

open Plant (oneOutlet oneUnit) in
/-- One operation on a relay to the strip, where nothing is lost: the outlet was switched. -/
theorem answers_own_switch :
    ∃ s o v, Reached Chain.near.cell
        (start Chain.near.cell Chain.near.endpoint Chain.near.options Chain.near.name) s ∧
      s.op 0 = some o ∧ o.inquiry = .switch true 1 ∧ o.task = .done (.ok v) ∧
      o.log.Modest o.inquiry ∧ ∃ x d, s.Obtained 0 o v x d ∧ d.Executed o.inquiry := by
  let q : Inquiry := .switch true 1
  let s₀ : Site := start Chain.near.cell Chain.near.endpoint Chain.near.options Chain.near.name
  let s₁ : Site := s₀.withOp 0 ⟨q, q.operation (.relay Chain.near.cell), {}⟩
  have begun : Reached Chain.near.cell s₀ s₁ := .step .refl (.start q rfl)
  have ends := Chain.ask_ends (m := 0) q Plant.oneOutlet_hasStrip (fun _ _ => trivial) nofun
    (Chain.atRest_start (p := oneOutlet) Chain.near_linked)
  have mirrors : s₁.Mirrors 0 (Chain.start oneOutlet [Chain.near]) := ⟨rfl, rfl, fun _ => rfl, nofun⟩
  obtain ⟨s, log, r, t, more, here, p, answered, -⟩ :=
    reached_of_ends (Plant.host_lawful oneUnit) ends begun.sound mirrors rfl
  have switched : ∃ p', Plant.run? (q.ask ⟨.device 0, 0⟩) oneOutlet = some (.ok (), p') := ⟨_, rfl⟩
  obtain ⟨p', switched⟩ := switched
  cases switched.symm.trans answered
  have reached := begun.trans more
  obtain ⟨modest, own⟩ := answers_own reached here
  obtain ⟨x, d, obtained, executed⟩ := own () rfl
  exact ⟨s, _, (), reached, here, rfl, rfl, modest, x, d, obtained, executed 0 trivial⟩

end Site

end DeviceRpc
