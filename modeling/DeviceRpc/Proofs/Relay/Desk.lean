import Mathlib.Logic.Function.Basic
import DeviceRpc.Proofs.Call.Drawing
import DeviceRpc.Proofs.Packet.Framing
import DeviceRpc.Proofs.Relay.Hop

/-!
# A relay on a network that fails

The desk of a relay is what an operation finds and leaves when it has the lock: the client as it was
put down, the connections that were ever dialed for it, and what the operation itself did so far. The
network behind it may do what it likes (`Desk.Answers`): refuse to connect, lose a frame or a part of
it, bring any bytes in any pieces, bring nothing in time, or end the connection.

**Settled lines.** A connection is settled if everything was sent that was to be, and what it brought
is one whole frame for each call. The next frame that it brings then answers the next call
(`RpcClient.Heard.answered`). A call leaves a settled connection settled, or fails on the link
(`RpcClient.call_keeps`).
-/

namespace DeviceRpc

open Packet (IsFrame IsFramed)

/-- What an operation may ask: the time, its own cell, and anything on connections. -/
def Act.OnDesk (cell : CellId) : Act → Prop
  | now | dial _ | send _ _ | receive _ _ _ | hangUp _ => True
  | pduClient c | keepPduClient c _ | keepEnvelope c _ | countReconnect c => c = cell
  | _ => False

/-! ## The desk -/

/-- A connection that was dialed, as the dialing side has it. -/
structure Line where
  /-- The frames that were to be sent, in order. -/
  calls : List Bytes := []
  /-- What was sent of them. -/
  wrote : Bytes := []
  /-- What came back. -/
  got : Bytes := []

/-- A frame that an operation sent, and its place among the frames of the connection. -/
structure Sending where
  line : ConnectionId
  place : Nat
  frame : Bytes

/-- What an operation did so far. -/
structure Log where
  sent : List Sending := []
  reconnects : Nat := 0
  dials : Nat := 0

/-- What an operation works on. -/
structure Desk where
  kept : PduClient
  /-- How many connections were dialed; they are numbered from zero. -/
  dialed : Nat
  line : ConnectionId → Line
  log : Log

/-- How often the inquiry itself was sent. -/
def Log.own (q : Inquiry) (log : Log) : Nat :=
  log.sent.countP fun x => Packet.commandOf x.frame = q.command

/-- No more than two attempts, of which the second one came with a reconnect. -/
structure Log.Modest (q : Inquiry) (log : Log) : Prop where
  own : log.own q ≤ 2
  reconnects : log.reconnects ≤ 1
  dials : log.dials ≤ 2

/-- Everything was sent, and what came is one frame for each call. -/
def Line.Settled (l : Line) : Prop :=
  l.wrote = l.calls.flatten ∧
    ∃ replies : List Bytes, (∀ f ∈ replies, IsFramed f) ∧ replies.length = l.calls.length ∧
      l.got = replies.flatten

namespace Desk

/-- The desk with one connection changed. -/
def onLine (c : ConnectionId) (f : Line → Line) (s : Desk) : Desk :=
  { s with line := Function.update s.line c (f (s.line c)) }

/-- A frame was to be sent, and some bytes were. -/
def sending (c : ConnectionId) (frame bytes : Bytes) (s : Desk) : Desk :=
  { s.onLine c fun l => { l with calls := l.calls ++ [frame], wrote := l.wrote ++ bytes } with
    log := { s.log with sent := s.log.sent ++ [⟨c, (s.line c).calls.length, frame⟩] } }

/-- Bytes came, and the client was put down meanwhile as it may be. -/
def heard (c : ConnectionId) (bytes : Bytes) (kept : PduClient) (s : Desk) : Desk :=
  { s.onLine c fun l => { l with got := l.got ++ bytes } with kept }

/-- One more connection was wanted. -/
def dialing (s : Desk) : Desk := { s with log := { s.log with dials := s.log.dials + 1 } }

/-- One more connection was made. -/
def dial (s : Desk) : Desk :=
  { s.dialing with dialed := s.dialed + 1, line := Function.update s.line s.dialed {} }

/-- One more reconnect was counted. -/
def reconnecting (s : Desk) : Desk :=
  { s with log := { s.log with reconnects := s.log.reconnects + 1 } }

/-- How what an operation asks may be answered. -/
inductive Answers (cell : CellId) : Answering Desk where
  | clock {s : Desk} (time : Instant) : Answers cell s .now time s
  | taken {s : Desk} : Answers cell s (.pduClient cell) s.kept s
  | kept {s : Desk} {c : PduClient} :
      Answers cell s (.keepPduClient cell c) () { s with kept := c }
  | noted {s : Desk} {p : Packet} :
      Answers cell s (.keepEnvelope cell p) () { s with kept := s.kept.withEnvelope p }
  | counted {s : Desk} : Answers cell s (.countReconnect cell) () s.reconnecting
  | refused {s : Desk} {endpoint : Endpoint} (e : LinkFailure) :
      Answers cell s (.dial endpoint) (.error e) s.dialing
  | dialed {s : Desk} {endpoint : Endpoint} :
      Answers cell s (.dial endpoint) (.ok ⟨s.dialed, .dialer⟩) s.dial
  | sent {s : Desk} {h : Handle} {frame : Bytes} (side : h.side = .dialer) :
      Answers cell s (.send h frame) (.ok ()) (s.sending h.connection frame frame)
  | broke {s : Desk} {h : Handle} {frame bytes : Bytes} (side : h.side = .dialer)
      (part : bytes <+: frame) (e : LinkFailure) :
      Answers cell s (.send h frame) (.error e) (s.sending h.connection frame bytes)
  | arrived {s : Desk} {h : Handle} {n : Nat} {limit : Option Instant} {first : UInt8}
      {rest : Bytes} (side : h.side = .dialer) (short : rest.length < max n 1) :
      Answers cell s (.receive h n limit) (.bytes first rest)
        (s.heard h.connection (first :: rest) s.kept)
  | nothing {s : Desk} {h : Handle} {n : Nat} {limit : Option Instant} {r : Received}
      (none : ∀ first rest, r ≠ .bytes first rest) : Answers cell s (.receive h n limit) r s
  | hungUp {s : Desk} {h : Handle} : Answers cell s (.hangUp h) () s

/-- An operation keeps to its budget and leaves the lock alone, and it sends only whole frames, on a
connection where everything else was sent. -/
structure May (cell : CellId) (q : Inquiry) (s : Desk) (a : Act) : Prop where
  modest : s.log.Modest q
  known : a.OnDesk cell
  sends : ∀ h frame, a = .send h frame → h.connection < s.dialed ∧ IsFramed frame ∧
    (s.line h.connection).wrote = (s.line h.connection).calls.flatten

variable {cell : CellId} {q : Inquiry} {s : Desk}

theorem may_of_ne {a : Act} (modest : s.log.Modest q) (known : a.OnDesk cell)
    (other : ∀ h frame, a ≠ .send h frame) : s.May cell q a :=
  ⟨modest, known, fun h frame same => absurd same (other h frame)⟩

theorem heard_heard (c : ConnectionId) (bs bs' : Bytes) (kept kept' : PduClient) (s : Desk) :
    (s.heard c bs kept).heard c bs' kept' = s.heard c (bs ++ bs') kept' := by
  simp only [heard, onLine, Function.update_self, Function.update_idem, List.append_assoc]

theorem heard_nil (c : ConnectionId) (s : Desk) : s.heard c [] s.kept = s := by
  simp only [heard, onLine, List.append_nil, Function.update_eq_self]

/-- The connection has the handle to read. -/
theorem draws {h : Handle} (modest : s.log.Modest q) :
    Draws (Answers cell) (May cell q) h (fun bs s' => ∃ kept, s' = s.heard h.connection bs kept) where
  may := by
    intro bs _ n limit here
    obtain ⟨kept, rfl⟩ := here
    exact may_of_ne modest trivial nofun
  may_now := by
    intro bs _ here
    obtain ⟨kept, rfl⟩ := here
    exact may_of_ne modest trivial nofun
  piece := by
    intro bs _ n limit first rest s' here hr
    obtain ⟨kept, rfl⟩ := here
    cases hr with
    | arrived _ short => exact ⟨short, _, heard_heard ..⟩
    | nothing none => exact absurd rfl (none first rest)
  without := by
    intro bs _ n limit r s' here hr none
    obtain ⟨kept, rfl⟩ := here
    cases hr with
    | arrived => exact absurd rfl (none _ _)
    | nothing => exact ⟨kept, rfl⟩
  clock := by
    intro bs _ r s' here hr
    obtain ⟨kept, rfl⟩ := here
    cases hr
    exact ⟨kept, rfl⟩

theorem note_discreet {h : Handle} (modest : s.log.Modest q) :
    Discreet (Answers cell) (May cell q) (fun bs s' => ∃ kept, s' = s.heard h.connection bs kept)
      (RpcClient.note (some cell)) := by
  intro p bs _ here
  obtain ⟨kept, rfl⟩ := here
  refine ⟨may_of_ne modest rfl nofun, ?_⟩
  intro r s' hr
  cases hr
  exact ⟨_, rfl⟩

end Desk

/-! ## One call -/

open Desk (Answers May)

variable {cell : CellId} {q : Inquiry} {s : Desk}

theorem Line.Settled.called {l : Line} (h : l.Settled) (frame : Bytes) {reply : Bytes}
    (framed : IsFramed reply) :
    Line.Settled ⟨l.calls ++ [frame], l.wrote ++ frame, l.got ++ reply⟩ := by
  obtain ⟨wrote, replies, all, length, got⟩ := h
  refine ⟨?_, replies ++ [reply], ?_, ?_, ?_⟩
  · rw [wrote, List.flatten_append, List.flatten_singleton]
  · intro f mem
    rcases List.mem_append.mp mem with mem | mem
    · exact all f mem
    · obtain rfl := List.mem_singleton.mp mem
      exact framed
  · rw [List.length_append, List.length_append, length]
    rfl
  · rw [got, List.flatten_append, List.flatten_singleton]

/-- The client's connection was dialed, and the next frame that it brings answers the next call. -/
structure RpcClient.Open (cell : CellId) (c : RpcClient) (s : Desk) : Prop where
  home : c.home = some cell
  side : c.channel.handle.side = .dialer
  dialed : c.channel.handle.connection < s.dialed
  settled : (s.line c.channel.handle.connection).Settled

/-- The desk after a call that was answered. -/
def Desk.called (c : RpcClient) (reply : Bytes) (kept : PduClient) (s : Desk) : Desk :=
  (s.sending c.channel.handle.connection c.packet.frame c.packet.frame).heard
    c.channel.handle.connection reply kept

/-- The log after a call. -/
def Desk.logged (c : RpcClient) (s : Desk) : Log :=
  (s.sending c.channel.handle.connection c.packet.frame c.packet.frame).log

/-- What a call comes to: the reply was read from the frame that came, or the connection failed. -/
def RpcClient.Called (c : RpcClient) (s : Desk) (r : Except CallFailure ReplyPart × RpcClient)
    (s' : Desk) : Prop :=
  (∃ header payload kept, IsFrame header payload ∧
    r = settled (verdict (c.packet.receive header payload) (.ok ()),
      { c with packet := c.packet.receive header payload }) ∧
    s' = s.called c (header ++ payload) kept) ∨
  ∃ e, r.1 = .error (.link e) ∧ s'.log = s.logged c

theorem RpcClient.Open.called {c c' : RpcClient} (h : c.Open cell s) (home : c'.home = c.home)
    (channel : c'.channel = c.channel) {reply : Bytes} (framed : IsFramed reply)
    (kept : PduClient) : c'.Open cell (s.called c reply kept) where
  home := home.trans h.home
  side := channel ▸ h.side
  dialed := channel ▸ h.dialed
  settled := by
    rw [channel, Desk.called]
    simp only [Desk.sending, Desk.heard, Desk.onLine, Function.update_self]
    exact h.settled.called _ framed

theorem RpcClient.call_keeps {c : RpcClient} (opened : c.Open cell s)
    (last : c.packet.hasMore = false) (whole : c.packet.Whole) (modest : s.log.Modest q)
    (after : (s.logged c).Modest q) :
    Keeps (Answers cell) (May cell q) (c.Called s) (call.on c) s := by
  let s₁ := s.sending c.channel.handle.connection c.packet.frame c.packet.frame
  let S (bs : Bytes) (s' : Desk) : Prop := ∃ kept, s' = s₁.heard c.channel.handle.connection bs kept
  have may : s.May cell q (.send c.channel.handle c.packet.frame) := by
    refine ⟨modest, trivial, ?_⟩
    intro h frame same
    cases same
    exact ⟨opened.dialed, whole.isFramed, opened.settled.1⟩
  have sent (s' : Desk) (hs : Answers cell s (.send c.channel.handle c.packet.frame) (.ok ()) s') :
      S [] s' := by
    cases hs
    exact ⟨_, (Desk.heard_nil _ _).symm⟩
  have broke (e : LinkFailure) (s' : Desk)
      (hs : Answers cell s (.send c.channel.handle c.packet.frame) (.error e) s') :
      s'.log = s.logged c := by
    cases hs
    rfl
  have draws : Draws (Answers cell) (May cell q) c.channel.handle S := Desk.draws after
  have discreet : Discreet (Answers cell) (May cell q) S (note c.home) := by
    rw [opened.home]
    exact Desk.note_discreet after
  have lost (bs : Bytes) (s' : Desk) (came : S bs s') : s'.log = s.logged c := by
    obtain ⟨kept, rfl⟩ := came
    rfl
  refine (call_ended last may sent broke draws discreet lost).mono (fun _ _ here => here) ?_
  intro r s' post
  rcases post with ⟨header, payload, frame, rfl, kept, rfl⟩ | failed
  · exact .inl ⟨header, payload, kept, frame, rfl, rfl⟩
  · exact .inr failed

/-- What an operation on a connection came to: it sent the inquiry no more often than that, and left
the connection settled unless it failed. -/
structure Spoke {α : Type} (cell : CellId) (q : Inquiry) (own : Nat) (s : Desk)
    (r : Except CallFailure α × RpcClient) (s' : Desk) : Prop where
  own : s'.log.own q ≤ s.log.own q + own
  reconnects : s'.log.reconnects = s.log.reconnects
  dials : s'.log.dials = s.log.dials
  opened : (∃ e, r.1 = .error (.link e)) ∨ r.2.Open cell s'

/-- The packet was read from the reply to this call. -/
def RpcClient.Heard (c : RpcClient) (s : Desk) (reply : Packet) (s' : Desk) : Prop :=
  ∃ frame kept, reply.ReadFrom frame ∧ reply.errorCode = 0 ∧ s' = s.called c frame kept

theorem Log.own_send (q : Inquiry) (x : Sending) (log : Log) :
    own q { log with sent := log.sent ++ [x] }
      = log.own q + if Packet.commandOf x.frame = q.command then 1 else 0 := by
  rw [own, List.countP_append, List.countP_singleton]
  simp only [decide_eq_true_eq]
  rfl

/-- A call of a packet that a client has filled. -/
theorem RpcClient.fill_keeps {c : RpcClient} {f : Packet → Except Failure Packet} {n : Nat}
    (opened : c.Open cell s) (modest : s.log.Modest q) (budget : s.log.own q + n ≤ 2)
    (filled : ∀ p, f c.packet = .ok p →
      p.option = 0 ∧ p.Whole ∧ (p.command = q.command → n = 1)) :
    Keeps (Answers cell) (May cell q)
      (fun r s' => Spoke cell q n s r s' ∧ (r.1 = .ok () → ∃ p, f c.packet = .ok p ∧
        RpcClient.Heard { c with packet := p } s r.2.packet s'))
      ((do fill f; discard call : Calling RpcClient Unit).on c) s := by
  cases changed : f c.packet with
  | error e =>
    rw [on_fill_error changed]
    refine ⟨⟨Nat.le_add_right .., rfl, rfl, .inl ⟨_, rfl⟩⟩, ?_⟩
    rintro ⟨⟩
  | ok p =>
    obtain ⟨option, whole, once⟩ := filled p changed
    let c' : RpcClient := { c with packet := p }
    have opened' : c'.Open cell s := ⟨opened.home, opened.side, opened.dialed, opened.settled⟩
    have spent : (s.logged c').own q ≤ s.log.own q + n := by
      refine Nat.le_trans (Nat.le_of_eq (Log.own_send q _ s.log)) (Nat.add_le_add_left ?_ _)
      rw [Packet.commandOf_frame]
      split
      next same => exact Nat.le_of_eq (once same).symm
      next => exact Nat.zero_le _
    have after : (s.logged c').Modest q :=
      ⟨Nat.le_trans spent budget, modest.reconnects, modest.dials⟩
    rw [Calling.on_bind, on_fill changed, Prog.done_bind, Calling.andThen, Calling.on_discard]
    refine .andThen (call_keeps opened' (Packet.hasMore_of_option option) whole modest after) ?_
    intro r s' post
    rcases post with ⟨header, payload, kept, frame, rfl, rfl⟩ | ⟨e, failed, logged⟩
    · have opened'' (c'' : RpcClient) (home : c''.home = c'.home) (channel : c''.channel = c'.channel) :=
        opened'.called home channel frame.isFramed kept
      have read := Packet.readFrom_receive frame p
      cases code : ErrorCode.ofNumber? (p.receive header payload).errorCode with
      | some code' =>
        simp only [verdict, code]
        refine ⟨⟨spent, rfl, rfl, .inr (opened'' _ rfl rfl)⟩, ?_⟩
        rintro ⟨⟩
      | none =>
        simp only [verdict, code]
        exact ⟨⟨spent, rfl, rfl, .inr (opened'' _ rfl rfl)⟩, fun _ =>
          ⟨p, rfl, header ++ payload, kept, read, ErrorCode.zero_of_ofNumber? code, rfl⟩⟩
    · obtain ⟨result, c''⟩ := r
      obtain rfl : result = .error (.link e) := failed
      have reconnects : s'.log.reconnects = s.log.reconnects := logged ▸ rfl
      have dials : s'.log.dials = s.log.dials := logged ▸ rfl
      refine ⟨⟨logged ▸ spent, reconnects, dials, .inl ⟨e, rfl⟩⟩, ?_⟩
      rintro ⟨⟩

/-! ## Answers -/

/-- The reply was read from the frame that came in the place of this one, and this one was sent in its
place. -/
structure Sending.Answered (x : Sending) (reply : Packet) (l : Line) : Prop where
  call : l.calls[x.place]? = some x.frame
  reply : ∃ (replies : List Bytes) (frame : Bytes), (∀ f ∈ replies, IsFramed f) ∧
    replies.flatten <+: l.got ∧ replies[x.place]? = some frame ∧ reply.ReadFrom frame

/-- The last frame that was sent makes the inquiry, and the reply to it is a good one. -/
def Desk.Answered (q : Inquiry) (reply : Packet) (s : Desk) : Prop :=
  ∃ x request, s.log.sent.getLast? = some x ∧ x.line < s.dialed ∧ x.Answered reply (s.line x.line) ∧
    q.Written request ∧ request.frame = x.frame ∧ reply.errorCode = 0

/-- What a settled connection brings next answers the call that is made next. -/
theorem RpcClient.Heard.answered {c : RpcClient} {reply : Packet} {s' : Desk} (opened : c.Open cell s)
    (heard : c.Heard s reply s') (written : q.Written c.packet) : s'.Answered q reply := by
  obtain ⟨frame, kept, read, good, rfl⟩ := heard
  obtain ⟨-, replies, framed, length, got⟩ := opened.settled
  refine ⟨⟨c.channel.handle.connection, _, c.packet.frame⟩, c.packet, List.getLast?_concat,
    opened.dialed, ?_, written, rfl, good⟩
  simp only [Desk.called, Desk.sending, Desk.heard, Desk.onLine, Function.update_self]
  refine ⟨List.getElem?_concat_length, replies ++ [frame], frame, ?_, ?_, ?_, read⟩
  · intro f mem
    rcases List.mem_append.mp mem with mem | mem
    · exact framed f mem
    · obtain rfl := List.mem_singleton.mp mem
      exact read.framed
  · exact ⟨[], by rw [got, List.flatten_append, List.flatten_singleton, List.append_nil]⟩
  · rw [← length]
    exact List.getElem?_concat_length

/-! ## What an act leaves as it was -/

/-- Nothing that was on the connection is gone. -/
structure Line.Grows (l l' : Line) : Prop where
  calls : l.calls <+: l'.calls
  wrote : l.wrote <+: l'.wrote
  got : l.got <+: l'.got

theorem Line.Grows.refl (l : Line) : l.Grows l :=
  ⟨List.prefix_rfl, List.prefix_rfl, List.prefix_rfl⟩

/-- Whole frames were to be sent, and what was sent is what they begin with. -/
structure Line.Framed (l : Line) : Prop where
  calls : ∀ frame ∈ l.calls, IsFramed frame
  wrote : l.wrote <+: l.calls.flatten

theorem Sending.Answered.grown {x : Sending} {reply : Packet} {l l' : Line}
    (h : x.Answered reply l) (more : l.Grows l') : x.Answered reply l' := by
  obtain ⟨call, replies, frame, framed, got, place, read⟩ := h
  refine ⟨?_, replies, frame, framed, got.trans more.got, place, read⟩
  obtain ⟨rest, same⟩ := more.calls
  obtain ⟨inside, -⟩ := List.getElem?_eq_some_iff.mp call
  rw [← same, List.getElem?_append_left inside]
  exact call

/-- The connections of the one desk are those of the other, and maybe there are more. -/
structure Desk.Grows (s s' : Desk) : Prop where
  dialed : s.dialed ≤ s'.dialed
  line : ∀ c < s.dialed, (s.line c).Grows (s'.line c)

theorem Desk.Answered.grown {reply : Packet} {s' : Desk} (h : s.Answered q reply)
    (more : s.Grows s') (log : s'.log = s.log) : s'.Answered q reply := by
  obtain ⟨x, request, last, dialed, answered, written, frame, good⟩ := h
  exact ⟨x, request, log ▸ last, Nat.lt_of_lt_of_le dialed more.dialed,
    answered.grown (more.line _ dialed), written, frame, good⟩

namespace Desk

theorem onLine_grows {f : Line → Line} (c : ConnectionId) (more : (s.line c).Grows (f (s.line c)))
    (c' : ConnectionId) : (s.line c').Grows ((s.onLine c f).line c') := by
  by_cases same : c' = c
  · subst same
    simp only [onLine, Function.update_self]
    exact more
  · simp only [onLine, Function.update_of_ne same]
    exact .refl _

theorem sending_grows (c : ConnectionId) (frame bytes : Bytes) (s : Desk) (c' : ConnectionId) :
    (s.line c').Grows ((s.sending c frame bytes).line c') :=
  onLine_grows (f := fun l => { l with calls := l.calls ++ [frame], wrote := l.wrote ++ bytes }) c
    ⟨List.prefix_append .., List.prefix_append .., List.prefix_rfl⟩ c'

theorem heard_grows (c : ConnectionId) (bytes : Bytes) (kept : PduClient) (s : Desk)
    (c' : ConnectionId) : (s.line c').Grows ((s.heard c bytes kept).line c') :=
  onLine_grows (f := fun l => { l with got := l.got ++ bytes }) c
    ⟨List.prefix_rfl, List.prefix_rfl, List.prefix_append ..⟩ c'

theorem Answers.grows {a : Act} {r : a.Reply} {s' : Desk} (h : Answers cell s a r s') :
    s.Grows s' := by
  have unchanged : ∀ c < s.dialed, (s.line c).Grows (s.line c) := fun c _ => .refl _
  cases h with
  | clock | taken | kept | noted | counted | refused | nothing | hungUp =>
    exact ⟨Nat.le_refl _, unchanged⟩
  | dialed =>
    refine ⟨Nat.le_succ _, fun c old => ?_⟩
    simp only [dial, Function.update_of_ne (Nat.ne_of_lt old)]
    exact .refl _
  | sent | broke => exact ⟨Nat.le_refl _, fun c _ => sending_grows _ _ _ _ c⟩
  | arrived => exact ⟨Nat.le_refl _, fun c _ => heard_grows _ _ _ _ c⟩

/-- What is sent is the next frame of its connection. -/
theorem Answers.sent_next {a : Act} {r : a.Reply} {s' : Desk} (h : Answers cell s a r s')
    (may : s.May cell q a) {x : Sending} (mem : x ∈ s'.log.sent) :
    x ∈ s.log.sent ∨ x.line < s.dialed ∧ x.place = (s.line x.line).calls.length ∧
      x.place < (s'.line x.line).calls.length := by
  cases h with
  | clock | taken | kept | noted | counted | refused | dialed | nothing | hungUp | arrived =>
    exact .inl mem
  | sent side | broke side part =>
    rcases List.mem_append.mp mem with mem | mem
    · exact .inl mem
    · obtain rfl := List.mem_singleton.mp mem
      refine .inr ⟨(may.sends _ _ rfl).1, rfl, ?_⟩
      simp only [sending, onLine, Function.update_self, List.length_append, List.length_singleton]
      exact Nat.lt_succ_self _

theorem sending_framed {c c' : ConnectionId} {frame bytes : Bytes} (h : (s.line c').Framed)
    (part : bytes <+: frame) (whole : IsFramed frame)
    (before : (s.line c).wrote = (s.line c).calls.flatten) :
    ((s.sending c frame bytes).line c').Framed := by
  by_cases same : c' = c
  · subst same
    simp only [sending, onLine, Function.update_self]
    refine ⟨?_, ?_⟩
    · intro f mem
      rcases List.mem_append.mp mem with mem | mem
      · exact h.calls f mem
      · obtain rfl := List.mem_singleton.mp mem
        exact whole
    · rw [List.flatten_append, List.flatten_singleton, before, List.prefix_append_right_inj]
      exact part
  · simp only [sending, onLine, Function.update_of_ne same]
    exact h

theorem heard_framed {c c' : ConnectionId} {bytes : Bytes} {kept : PduClient}
    (h : (s.line c').Framed) : ((s.heard c bytes kept).line c').Framed := by
  by_cases same : c' = c
  · subst same
    simp only [heard, onLine, Function.update_self]
    exact ⟨h.calls, h.wrote⟩
  · simp only [heard, onLine, Function.update_of_ne same]
    exact h

/-- A connection that was dialed before stays framed. -/
theorem Answers.framed {a : Act} {r : a.Reply} {s' : Desk} (h : Answers cell s a r s')
    (may : s.May cell q a) {c : ConnectionId} (old : c < s.dialed) (framed : (s.line c).Framed) :
    (s'.line c).Framed := by
  cases h with
  | clock | taken | kept | noted | counted | refused | nothing | hungUp => exact framed
  | dialed =>
    simp only [dial, Function.update_of_ne (Nat.ne_of_lt old)]
    exact framed
  | sent side =>
    obtain ⟨-, whole, before⟩ := may.sends _ _ rfl
    exact sending_framed framed List.prefix_rfl whole before
  | broke side part =>
    obtain ⟨-, whole, before⟩ := may.sends _ _ rfl
    exact sending_framed framed part whole before
  | arrived => exact heard_framed framed

/-- A connection that was not dialed before has nothing on it. -/
theorem Answers.line_new {a : Act} {r : a.Reply} {s' : Desk} (h : Answers cell s a r s')
    {c : ConnectionId} (new : s.dialed ≤ c) (dialed : c < s'.dialed) : s'.line c = {} := by
  cases h with
  | clock | taken | kept | noted | counted | refused | sent | broke | arrived | nothing | hungUp =>
    exact absurd dialed (Nat.not_lt.mpr new)
  | dialed =>
    obtain rfl : c = s.dialed := Nat.le_antisymm (Nat.le_of_lt_succ dialed) new
    simp only [dial, Function.update_self]

end Desk

end DeviceRpc
