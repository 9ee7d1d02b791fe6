import DeviceRpc.Proofs.Call.Running
import DeviceRpc.Proofs.Server.Feed

/-!
# A caller and its server

A caller dials one connection and calls over it; the server at the far end is a task of its own,
which goes on by itself whenever it can. The machine of the two (`Host.remote`) has the connection's
two pipes between them. Both sides take from a pipe as much as the machine likes, and the server may
move or pause between any two acts of the caller, so every interleaving and every way to cut the
bytes is a run.

**Waiting.** While the server works on a request, the caller asks for nothing that it can be given:
it reads the clock, puts its envelope down and then waits for the first byte (`Awaits`). The server
writes nothing before its reply, so all of its work is over when the caller goes on
(`remote_awaits`). From there the reply is a stream to read (`Host.reads_reply`).
-/

namespace DeviceRpc

open Packet (IsFrame Same announced)

/-- A connection with the server at its far end. -/
structure Wire where
  /-- What the server is about to do. -/
  server : Task Ending
  /-- Sent to the server and not yet received. -/
  up : Bytes := []
  /-- Sent by the server and not yet received. -/
  down : Bytes := []

/-- A caller's connection, if it has dialed, and the rest of the server's node. -/
structure Remote (τ : Type) where
  wire : Option Wire := none
  host : τ

/-- A task that goes on with the next round where one is over. -/
def resumed : Task Ending → Task Ending
  | .done (.become job) => job.round
  | task => task

/-- The caller's side of its connection. -/
abbrev Handle.caller : Handle := ⟨0, .dialer⟩

/-- The server's side of it. -/
abbrev Handle.server : Handle := ⟨0, .acceptor⟩

namespace Host

variable {τ : Type}

/-- What happens without the caller: in the host, or at the server. -/
inductive RemoteMoves (H : Host τ) : Remote τ → Remote τ → Prop where
  | host {s : Remote τ} {t' : τ} (h : H.machine.silent s.host t') :
      RemoteMoves H s { s with host := t' }
  | serve {w : Wire} {t : τ} {a : Act} {next : a.Reply → Task Ending} {r : a.Reply} {f : Feed τ}
      (asks : w.server = .ask a next) (h : H.fed.answers ⟨w.up, false, [], t⟩ a r f) :
      RemoteMoves H ⟨some w, t⟩
        ⟨some ⟨resumed (next r), f.rem, w.down ++ f.out.flatten⟩, f.host⟩

/-- How the caller's acts are answered. -/
inductive RemoteAnswers (H : Host τ) (node : NodeId) (options : LinkOptions) :
    Remote τ → (a : Act) → a.Reply → Remote τ → Prop where
  | clock {s : Remote τ} (time : Instant) : RemoteAnswers H node options s .now time s
  | noted {s : Remote τ} {cell : CellId} {p : Packet} :
      RemoteAnswers H node options s (.keepEnvelope cell p) () s
  /-- The listener gives the connection a server. -/
  | dialed {t : τ} {endpoint : Endpoint} :
      RemoteAnswers H node options ⟨none, t⟩ (.dial endpoint) (.ok .caller)
        ⟨some { server := (Job.opening node ⟨.server, options⟩).round }, t⟩
  | sent {w : Wire} {t : τ} {bs : Bytes} :
      RemoteAnswers H node options ⟨some w, t⟩ (.send .caller bs) (.ok ())
        ⟨some { w with up := w.up ++ bs }, t⟩
  | arrived {w : Wire} {t : τ} {n : Nat} {limit : Option Instant} {first : UInt8}
      {rest left : Bytes} (split : w.down = first :: rest ++ left) (short : rest.length < max n 1) :
      RemoteAnswers H node options ⟨some w, t⟩ (.receive .caller n limit) (.bytes first rest)
        ⟨some { w with down := left }, t⟩

/-- A caller's surroundings: one connection to a node that serves it. -/
def remote (H : Host τ) (node : NodeId) (options : LinkOptions) : Machine (Remote τ) where
  silent := RemoteMoves H
  answers := RemoteAnswers H node options

variable {H : Host τ} {node : NodeId} {options : LinkOptions}

theorem remote_clock {s s' : Remote τ} {time : Instant}
    (h : (H.remote node options).answers s .now time s') : s' = s := by
  cases h with
  | clock => rfl

/-- What a server asks for itself is not answered on the caller's side. -/
theorem remote_apart {s s' : Remote τ} {a : Act} {r : a.Reply}
    (h : (H.remote node options).answers s a r s') : ¬ a.IsServing := by
  intro serving
  cases h with
  | clock | noted | dialed => exact serving
  | sent | arrived => cases serving

/-- Where the server waits for a request with this envelope. -/
def waiting (node : NodeId) (options : LinkOptions) (e : Packet) : Task Ending :=
  (Job.connection node ⟨.server, options⟩ e).round

theorem waiting_asks (node : NodeId) (options : LinkOptions) (e : Packet) :
    ∃ next, waiting node options e = .ask (.receive .server 1 none) next := by
  unfold waiting Job.round Server.cycle Channel.readRequest receiveExactly
  exact ⟨_, rfl⟩

theorem resumed_waiting (node : NodeId) (options : LinkOptions) (e : Packet) :
    resumed (waiting node options e) = waiting node options e := by
  obtain ⟨next, waits⟩ := waiting_asks node options e
  rw [waits]
  rfl

/-- A server that waits for a request moves only when bytes come. -/
theorem remote_still {e : Packet} {t : τ} (still : H.machine.Still t) (down : Bytes) :
    (H.remote node options).Still ⟨some ⟨waiting node options e, [], down⟩, t⟩ := by
  intro s moved
  obtain ⟨next, waits⟩ := waiting_asks node options e
  cases moved with
  | host h => exact still _ h
  | serve asks h =>
    rw [waits] at asks
    cases asks
    rcases fed_receive rfl h with ⟨first, rest, left, -, split, -, -⟩ | ⟨-, closed, -, -⟩
    · cases split
    · cases closed

theorem fed_closed {s s' : Feed τ} {a : Act} {r : a.Reply} (hr : H.fed.answers s a r s') :
    s'.closed = s.closed := by
  cases hr <;> rfl

/-! ## Waiting for the server -/

/-- The program asks for nothing that the server has to bring, until it receives in `P`. -/
inductive Awaits {α : Type} (P : Task α → Prop) : Task α → Prop where
  | receive {n : Nat} {limit : Option Instant} {next : Received → Task α}
      (here : P (.ask (.receive .caller n limit) next)) :
      Awaits P (.ask (.receive .caller n limit) next)
  | clock {next : Instant → Task α} (go : ∀ time, Awaits P (next time)) :
      Awaits P (.ask .now next)
  | noted {cell : CellId} {p : Packet} {next : Unit → Task α} (go : Awaits P (next ())) :
      Awaits P (.ask (.keepEnvelope cell p) next)

section

variable {α : Type} {P : Task α → Prop} {R : α → Remote τ → Prop} {I : Ending → Feed τ → Prop}

/-- Once the server is done, only clock and envelope stand between the caller and its reply. -/
theorem remote_arrived {s : Remote τ} (still : (H.remote node options).Still s)
    (arrived : ∀ p, P p → Ends (H.remote node options) R p s) {p : Task α} (h : Awaits P p) :
    Ends (H.remote node options) R p s := by
  induction h with
  | receive here => exact arrived _ here
  | clock _ ih =>
    refine .atRest still trivial ⟨0, s, .clock 0⟩ fun time s' hr => ?_
    cases hr with
    | clock => exact ih time
  | noted _ ih =>
    refine .atRest still trivial ⟨(), s, .noted⟩ fun _ s' hr => ?_
    cases hr with
    | noted => exact ih

/-- The server works to the end of its round, and the caller waits on. -/
theorem remote_awaits {task : Task Ending} {f : Feed τ}
    (server : EndsWithin H.fed (Quiet []) I task f) (isOpen : f.closed = false)
    (after : ∀ e f p, I e f → f.closed = false → Awaits P p →
      Ends (H.remote node options) R p ⟨some ⟨resumed (.done e), f.rem, f.out.flatten⟩, f.host⟩)
    {p : Task α} (h : Awaits P p) :
    Ends (H.remote node options) R p ⟨some ⟨resumed task, f.rem, f.out.flatten⟩, f.host⟩ := by
  induction server generalizing p with
  | done here => exact after _ _ p here isOpen h
  | @ask a next f quiet live _ _ later go =>
    obtain ⟨rem, closed, out, t⟩ := f
    obtain rfl : closed = false := isOpen
    obtain rfl : out = [] := quiet
    -- whatever moves is a step of the server's round
    have moves (p : Task α) (h : Awaits P p) (s : Remote τ)
        (moved : RemoteMoves H ⟨some ⟨.ask a next, rem, []⟩, t⟩ s) :
        Ends (H.remote node options) R p s := by
      cases moved with
      | host ht => exact later _ ⟨_, ht, rfl⟩ rfl h
      | serve asks hr =>
        cases asks
        exact go _ _ hr (fed_closed hr) h
    have goes (a' : Act) : (H.remote node options).CanGoOn ⟨some ⟨.ask a next, rem, []⟩, t⟩ a' := by
      rcases live with ⟨f', ht⟩ | ⟨r, f', hr⟩
      · obtain ⟨t', ht, -⟩ := ht
        exact .inl ⟨_, .host ht⟩
      · exact .inl ⟨_, .serve rfl hr⟩
    show Ends (H.remote node options) R p ⟨some ⟨.ask a next, rem, []⟩, t⟩
    induction h with
    | receive here =>
      refine .ask trivial (goes _) (fun s moved => moves _ (.receive here) s moved) fun r s hr => ?_
      cases hr with
      | arrived split => cases split
    | clock awaits ih =>
      refine .ask trivial (goes _) (fun s moved => moves _ (.clock awaits) s moved) fun r s hr => ?_
      cases hr with
      | clock => exact ih r
    | noted awaits ih =>
      refine .ask trivial (goes _) (fun s moved => moves _ (.noted awaits) s moved) fun r s hr => ?_
      cases hr with
      | noted => exact ih

end

/-! ## Reading the reply -/

/-- The server waits, and these bytes are there for the caller. -/
structure Brings (H : Host τ) (node : NodeId) (options : LinkOptions) (e : Packet) (t : τ)
    (bs : Bytes) (s : Remote τ) : Prop where
  eq : s = ⟨some ⟨waiting node options e, [], bs⟩, t⟩
  still : H.machine.Still t

theorem reads_reply (H : Host τ) (node : NodeId) (options : LinkOptions) (e : Packet) (t : τ) :
    Reads (H.remote node options) (fun _ => True) .caller (H.Brings node options e t) where
  within _ := trivial
  still hS := by rw [hS.eq]; exact remote_still hS.still _
  live n limit hS := by
    rw [hS.eq]
    exact ⟨.bytes _ [], _, .arrived rfl (by rw [List.length_nil]; omega)⟩
  chunk hS hr := by
    rw [hS.eq] at hr
    cases hr with
    | arrived split short => exact .inl ⟨_, _, _, rfl, split, short, rfl, hS.still⟩
  clock_live hS := ⟨0, _, .clock 0⟩
  clock hS hr := by
    cases hr with
    | clock => exact hS

theorem note_harmless (home : Option CellId) (e : Packet) (t : τ) :
    Harmless (H.remote node options) (fun _ => True) (H.Brings node options e t)
      (RpcClient.note home) := by
  intro p bs s hS
  have still := (H.reads_reply node options e t).still hS
  cases home with
  | none => exact .done hS
  | some cell =>
    refine .atRest still trivial ⟨(), s, .noted⟩ fun _ s' hr => ?_
    cases hr with
    | noted => exact .done hS

/-! ## One call -/

/-- What a call comes to when this is the reply. -/
def outcome (reply : Packet) : Except CallFailure ReplyPart :=
  match ErrorCode.ofNumber? reply.errorCode with
  | some code => .error (.remote code)
  | none => .ok .last

theorem errorCode_of_outcome {reply : Packet} {part : ReplyPart} (h : outcome reply = .ok part) :
    reply.errorCode = 0 := by
  unfold outcome at h
  split at h
  · cases h
  next success => exact ErrorCode.zero_of_ofNumber? success

/-- Nothing is under way on the connection, and the server waits with this envelope. -/
def idle (node : NodeId) (options : LinkOptions) (e : Packet) (t : τ) : Remote τ :=
  ⟨some ⟨waiting node options e, [], []⟩, t⟩

/-- Reading a reply from its first byte on. -/
def Receives (c : RpcClient) (q : Task (Except CallFailure ReplyPart × RpcClient)) : Prop :=
  ∃ limit, q = c.channel.readPacketBy c.packet (RpcClient.note c.home) limit >>= fun r =>
    .done (RpcClient.verdict r.1 r.2, { c with packet := r.1 })

theorem read_awaits {c : RpcClient} (caller : c.channel.handle = .caller) :
    Awaits (Receives c) (RpcClient.read.on c) := by
  let f := fun r : Packet × Except LinkFailure Unit =>
    (.done (RpcClient.verdict r.1 r.2, { c with packet := r.1 }) :
      Task (Except CallFailure ReplyPart × RpcClient))
  have receives (limit : Option Instant) :
      Awaits (Receives c)
        (c.channel.readPacketBy c.packet (RpcClient.note c.home) limit >>= f) := by
    have now : Receives c (c.channel.readPacketBy c.packet (RpcClient.note c.home) limit >>= f) :=
      ⟨limit, rfl⟩
    rw [Channel.readPacketBy, headerSize, receiveExactly, caller] at now ⊢
    exact .receive now
  have clock : Awaits (Receives c)
      (c.channel.readPacket c.packet (RpcClient.note c.home) >>= f) := by
    rw [Channel.readPacket_eq, bind_assoc]
    cases c.channel.options.ioTimeout with
    | none => exact receives none
    | some ms => exact .clock fun time => receives (some (time + ms))
  have noted (home : Option CellId) : Awaits (Receives c) (RpcClient.note home c.packet >>= fun _ =>
      c.channel.readPacket c.packet (RpcClient.note c.home) >>= f) := by
    cases home with
    | none => exact clock
    | some cell => exact .noted clock
  rw [RpcClient.on_read]
  exact noted c.home

/-- A reply that is there is what the call comes to. -/
theorem settled_verdict {c : RpcClient} {d : Packet} (same : Same c.packet d)
    (last : d.hasMore = false) :
    RpcClient.settled (RpcClient.verdict c.packet (.ok ()), c) = (outcome d, c) := by
  have noMore : c.packet.hasMore = false := by rw [Packet.hasMore, same.option]; exact last
  unfold RpcClient.verdict outcome
  rw [same.errorCode]
  cases ErrorCode.ofNumber? d.errorCode with
  | none => rw [noMore]; rfl
  | some code => rw [RpcClient.settled, RpcClient.edit, Packet.clearMore_of_last noMore]

/-- Where the server was just given the connection. -/
def fresh (node : NodeId) (options : LinkOptions) (t : τ) : Remote τ :=
  ⟨some { server := (Job.opening node ⟨.server, options⟩).round }, t⟩

/-- The only thing that happens there by itself is that the server opens it. -/
theorem fresh_moves {t : τ} {s : Remote τ} (still : H.machine.Still t)
    (moved : RemoteMoves H (fresh node options t) s) : s = idle node options .empty t := by
  cases moved with
  | host h => exact (still _ h).elim
  | serve asks h =>
    cases asks
    rw [fed_record h]
    rfl

/-- What is asked of a fresh connection is asked of an idle one, or the server sees to its opening
only later. -/
theorem fresh_ask {α : Type} {R : α → Remote τ → Prop} {a : Act} {next : a.Reply → Task α} {t : τ}
    (still : H.machine.Still t)
    (live : ∃ r s, (H.remote node options).answers (fresh node options t) a r s)
    (go : ∀ r s, (H.remote node options).answers (fresh node options t) a r s →
      Ends (H.remote node options) R (next r) s)
    (opened : Ends (H.remote node options) R (.ask a next) (idle node options .empty t)) :
    Ends (H.remote node options) R (.ask a next) (fresh node options t) := by
  refine .ask trivial (.inr live) (fun s moved => ?_) go
  rw [fresh_moves still moved]
  exact opened

/-- Where a call may start: the server waits for a request, or will once it has opened. -/
inductive Ready (node : NodeId) (options : LinkOptions) (t : τ) : Remote τ → Prop where
  | idle (e : Packet) : Ready node options t (idle node options e t)
  | fresh : Ready node options t (fresh node options t)

/-- Without a connection there is only the host. -/
theorem apart_still {t : τ} (still : H.machine.Still t) : (H.remote node options).Still ⟨none, t⟩ := by
  intro s moved
  cases moved with
  | host h => exact still _ h

/-- Whoever connects gets a fresh connection. -/
theorem connects {t : τ} (still : H.machine.Still t) (endpoint : Endpoint) (copts : LinkOptions)
    (home : Option CellId) :
    Ends (H.remote node options)
      (fun r s => r = .ok { endpoint, options := copts, channel := ⟨.caller, copts⟩, home } ∧
        s = fresh node options t)
      (RpcClient.connect endpoint copts home) ⟨none, t⟩ := by
  refine .bind (.request (apart_still still) trivial ⟨_, _, .dialed⟩ fun r s hs => ?_)
  cases hs with
  | dialed => exact .done (.done ⟨rfl, rfl⟩)

/-- What a call on the connection comes to. -/
structure Called (H : Host τ) (node : NodeId) (options : LinkOptions) (Q : Packet → τ → Prop)
    (c : RpcClient) (r : Except CallFailure ReplyPart × RpcClient) (s : Remote τ) : Prop where
  reply : ∃ d e t, Q d t ∧ Same r.2.packet d ∧ r.1 = outcome d ∧ s = idle node options e t
  client : r.2 = { c with packet := r.2.packet }

/-- A reply that is there is read, and is what the call comes to. -/
theorem reply_read {c : RpcClient} {copts : LinkOptions} {d e : Packet} {t : τ}
    (channel : c.channel = ⟨.caller, copts⟩) (whole : d.Whole) (last : d.hasMore = false)
    (admitted : d.length.toNat ≤ copts.maxPayload) (still : H.machine.Still t)
    {q : Task (Except CallFailure ReplyPart × RpcClient)} (receives : Receives c q) :
    Ends (H.remote node options)
      (fun r s => ∃ c', RpcClient.settled r = (outcome d, c') ∧ Same c'.packet d ∧
        c' = { c with packet := c'.packet } ∧ s = idle node options e t)
      q ⟨some ⟨waiting node options e, [], d.frame⟩, t⟩ := by
  obtain ⟨limit, rfl⟩ := receives
  have reads := H.reads_reply node options e t
  have small : d.payload.length ≤ copts.maxPayload := by rw [whole]; exact admitted
  have handle : c.channel.readPacketBy c.packet (RpcClient.note c.home) limit
      = Channel.readPacketBy ⟨.caller, copts⟩ c.packet (RpcClient.note c.home) limit := by
    rw [channel]
  have brings : H.Brings node options e t (d.header ++ (d.payload ++ []))
      ⟨some ⟨waiting node options e, [], d.frame⟩, t⟩ :=
    ⟨by rw [List.append_nil, Packet.frame], still⟩
  rw [handle]
  refine .bind ((reads.readPacketBy (note_harmless c.home e t) whole.isFrame small limit
    brings).mono (fun _ _ => trivial) fun r s hr => ?_)
  obtain ⟨rfl, hS⟩ := hr
  have arrived := Packet.receive_same whole c.packet
  exact .done ⟨_, settled_verdict (c := { c with packet := _ }) arrived last, arrived, rfl, hS.eq⟩

section

variable {Q : Packet → τ → Prop} {c : RpcClient} {copts : LinkOptions} {e p : Packet} {t : τ}
  (channel : c.channel = ⟨.caller, copts⟩) (same : Same c.packet p) (last : p.hasMore = false)
  (fits : p.length.toNat ≤ options.maxPayload) (still : H.machine.Still t)
  (dispatch : Ends H.machine Q (Pdu.service.dispatch H.registry p) t)
  (rests : ∀ d t', Q d t' → H.machine.Still t')
  (admitted : ∀ d t', Q d t' → d.length.toNat ≤ copts.maxPayload)

include channel same last fits still dispatch rests admitted

/-- Once a request is on its way to a server that waits for one, the reply is what reading comes
to. -/
theorem sent_remote {q : Task (Except CallFailure ReplyPart × RpcClient)}
    (awaits : Awaits (Receives c) q) :
    Ends (H.remote node options)
      (fun r s => H.Called node options Q c (RpcClient.settled r) s)
      q ⟨some ⟨waiting node options e, c.packet.frame, []⟩, t⟩ := by
  have accepted : c.packet.payload.length ≤ options.maxPayload := by
    rw [same.whole, same.length]; exact fits
  -- what the server does with the request
  have served : EndsWithin H.fed (Quiet []) _ (waiting node options e)
      ⟨c.packet.header ++ (c.packet.payload ++ []), false, [], t⟩ :=
    round_answers same.whole.isFrame accepted ((Packet.receive_same same.whole e).trans same) still
      dispatch rests
  have frame : c.packet.frame = c.packet.header ++ (c.packet.payload ++ []) := by
    rw [List.append_nil, Packet.frame]
  rw [frame, ← resumed_waiting]
  refine remote_awaits served rfl ?_ awaits
  rintro _ _ _ ⟨p', d, t', rfl, replies, hQ, rfl⟩ - awaits
  have still' := rests d t' hQ
  refine remote_arrived (remote_still still' _) ?_ awaits
  intro _ receives
  have noMore : d.hasMore = false := by rw [Packet.hasMore, replies.option]; exact last
  have down : ([] ++ [d.frame]).flatten = d.frame := by
    rw [List.nil_append, List.flatten_singleton]
  rw [down]
  refine (reply_read channel replies.same.whole noMore (admitted d t' hQ) still'
    receives).mono (fun _ _ => trivial) ?_
  intro r s post
  obtain ⟨c', settled, arrived, client, rfl⟩ := post
  rw [settled]
  exact ⟨⟨d, p', t', hQ, arrived, rfl, rfl⟩, client⟩

/-- A call on an idle connection is dispatched on the host as if in place, and the reply is in the
client's envelope. -/
theorem call_idle :
    Ends (H.remote node options) (H.Called node options Q c) (RpcClient.call.on c)
      (idle node options e t) := by
  have noMore : c.packet.hasMore = false := by rw [Packet.hasMore, same.option]; exact last
  have sends : c.channel.writePacket c.packet = ask (.send .caller c.packet.frame) := by
    rw [Channel.writePacket, channel]
  rw [RpcClient.on_call noMore, sends]
  refine .bind (.request (remote_still still _) trivial ⟨_, _, .sent⟩ fun r s hs => ?_)
  cases hs with
  | sent =>
    refine (sent_remote channel same last fits still dispatch rests admitted
      (read_awaits (by rw [channel]))).mono (fun _ ht => ht) fun r s called => .done called

/-- The same on a fresh connection, whether the server opens it before the request or after. -/
theorem call_fresh :
    Ends (H.remote node options) (H.Called node options Q c) (RpcClient.call.on c)
      (fresh node options t) := by
  have opened : Ends (H.remote node options) _ _ (idle node options .empty t) :=
    call_idle channel same last fits still dispatch rests admitted
  have noMore : c.packet.hasMore = false := by rw [Packet.hasMore, same.option]; exact last
  have sends : c.channel.writePacket c.packet = ask (.send .caller c.packet.frame) := by
    rw [Channel.writePacket, channel]
  rw [RpcClient.on_call noMore, sends] at opened ⊢
  rw [bind_assoc] at opened ⊢
  refine fresh_ask still ⟨_, _, .sent⟩ (fun r s hs => ?_) opened
  cases hs with
  | sent =>
    have opens : EndsWithin H.fed (Quiet []) _ _ ⟨c.packet.frame, false, [], t⟩ :=
      round_opens node ⟨.server, options⟩ still
    show Ends _ _ (RpcClient.read.on c >>= fun r => .done (RpcClient.settled r)) _
    refine .bind ((remote_awaits opens rfl ?_ (read_awaits (by rw [channel]))).mono
      (fun _ ht => ht) fun r s called => .done called)
    rintro _ _ q ⟨rfl, rfl⟩ - awaits
    exact sent_remote channel same last fits still dispatch rests admitted awaits

theorem call_ready {s : Remote τ} (ready : Ready node options t s) :
    Ends (H.remote node options) (H.Called node options Q c) (RpcClient.call.on c) s := by
  cases ready with
  | idle e => exact call_idle channel same last fits still dispatch rests admitted
  | fresh => exact call_fresh channel same last fits still dispatch rests admitted

end

end Host

end DeviceRpc
