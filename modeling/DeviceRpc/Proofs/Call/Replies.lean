import Mathlib.Data.List.Forall2
import DeviceRpc.Proofs.Call.Running
import DeviceRpc.Proofs.Link.Conduit
import DeviceRpc.Proofs.Program.Keeps

/-!
# Replies of several packets

A peer answers a request with some packets, and all but the last announce another. What the client
knows of a reply that is under way is the one bit in the envelope that it received last: while the
bit is set, a call reads and does not send.

So a client that calls once for each packet gets the packets of every reply in turn and sends one
frame for each reply (`Peer.replies_in_turn`). The bit never outlives a failure or a connection:
whatever was received, it is clear after a call that fails and after a reconnect, and the next call
begins by sending (`call_after_failure`, `call_after_reconnect`).
-/

namespace DeviceRpc

open Packet (Same)

/-! ## The announcing bit -/

theorem Packet.hasMore_clearMore (p : Packet) : p.clearMore.hasMore = false := by
  have clear (x m : UInt16) : x &&& ~~~m &&& m = 0 := by
    rw [← UInt16.toBitVec_inj, UInt16.toBitVec_and, UInt16.toBitVec_and, UInt16.toBitVec_not,
      BitVec.and_assoc, BitVec.not_and_self]
    exact BitVec.and_zero
  simp only [hasMore, clearMore, clear, ne_eq, not_true_eq_false, decide_false]

namespace RpcClient

/-- The call begins by sending the envelope. -/
def SendsFirst (c : RpcClient) : Prop :=
  ∃ next, call.on c = .ask (.send c.channel.handle c.packet.frame) next

theorem sendsFirst {c : RpcClient} (last : c.packet.hasMore = false) : c.SendsFirst :=
  ⟨_, on_call last⟩

variable {c c' : RpcClient} {acts : List (Prog.Exchange Act.Reply)}

theorem call_eq_settled (c : RpcClient) : ∃ t, call.on c = t >>= (return settled ·) := by
  cases more : c.packet.hasMore with
  | true => exact ⟨_, on_call_more more⟩
  | false => exact ⟨_, on_call more⟩

/-- However a call failed and whatever was received, the next one sends first. -/
theorem call_after_failure {e : CallFailure} (run : Prog.Runs (call.on c) acts (.error e, c')) :
    c'.packet.hasMore = false ∧ c'.SendsFirst := by
  obtain ⟨t, settles⟩ := c.call_eq_settled
  rw [settles] at run
  obtain ⟨_, _, ⟨result, c₁⟩, -, -, ended⟩ := run.of_bind
  have same := (Prog.Runs.of_done ended).2
  have last : c'.packet.hasMore = false := by
    cases result with
    | ok => cases same
    | error e' =>
      cases same
      exact Packet.hasMore_clearMore _
  exact ⟨last, sendsFirst last⟩

/-- On a new connection the next call sends first. -/
theorem call_after_reconnect (run : Prog.Runs (reconnect.on c) acts (.ok (), c')) :
    c'.packet.hasMore = false ∧ c'.SendsFirst := by
  rw [on_reconnect] at run
  obtain ⟨_, _, result, -, -, rest⟩ := run.of_bind
  cases result with
  | error e => cases (Prog.Runs.of_done rest).2
  | ok channel =>
    obtain ⟨_, _, _, -, -, ended⟩ := rest.of_bind
    have same := (Prog.Runs.of_done ended).2
    have last : c'.packet.hasMore = false := by
      cases same
      exact Packet.hasMore_clearMore _
    exact ⟨last, sendsFirst last⟩

end RpcClient

/-! ## A peer and its replies -/

/-- A reply of some packets, all of them within a limit: each but the last announces another, and
only the last may carry an error code. -/
inductive Reply (limit : Nat) : List Packet → Prop where
  | last {p : Packet} (last : p.hasMore = false) (whole : p.Whole)
      (fits : p.length.toNat ≤ limit) : Reply limit [p]
  | more {p : Packet} {ps : List Packet} (more : p.hasMore = true) (success : p.errorCode = 0)
      (whole : p.Whole) (fits : p.length.toNat ≤ limit) (rest : Reply limit ps) :
      Reply limit (p :: ps)

/-- A peer on one connection: the requests that it got, what the client has not received yet of its
replies, and the replies that it has for the next requests. -/
structure Peer where
  heard : List Bytes
  flow : Bytes
  replies : List (List Packet)

namespace Peer

/-- How the client's acts are answered. A request is answered as soon as it is there, and the reply
comes in pieces of any length. -/
inductive Answers (h : Handle) : Peer → (a : Act) → a.Reply → Peer → Prop where
  | clock {t : Peer} (instant : Instant) : Answers h t .now instant t
  | noted {t : Peer} {cell : CellId} {p : Packet} : Answers h t (.keepEnvelope cell p) () t
  | asked {heard : List Bytes} {flow frame : Bytes} {reply : List Packet}
      {replies : List (List Packet)} (framed : Packet.IsFramed frame) :
      Answers h ⟨heard, flow, reply :: replies⟩ (.send h frame) (.ok ())
        ⟨heard ++ [frame], flow ++ wire reply, replies⟩
  | piece {t : Peer} {n : Nat} {limit : Option Instant} {first : UInt8} {rest left : Bytes}
      (split : t.flow = first :: rest ++ left) (short : rest.length < max n 1) :
      Answers h t (.receive h n limit) (.bytes first rest) { t with flow := left }

/-- The peer at the other end of a handle. -/
def machine (h : Handle) : Machine Peer where
  silent _ _ := False
  answers := Answers h

variable {h : Handle} {heard : List Bytes} {flow : Bytes} {reply : List Packet}
  {replies : List (List Packet)} {c : RpcClient} {p : Packet}

theorem still (t : Peer) : (machine h).Still t := fun _ => id

theorem reads (h : Handle) (heard : List Bytes) (replies : List (List Packet)) :
    Reads (machine h) (fun _ => True) h (fun bs t => t = ⟨heard, bs, replies⟩) where
  within _ := trivial
  still _ := still _
  live n limit := by
    rintro rfl
    exact ⟨_, _, .piece rfl (by rw [List.length_nil]; omega)⟩
  chunk := by
    rintro bs _ n limit r t' rfl hr
    cases hr with
    | piece split short => exact .inl ⟨_, _, _, rfl, split, short, rfl⟩
  clock_live _ := ⟨0, _, .clock 0⟩
  clock := by
    rintro bs _ r t' rfl hr
    cases hr with
    | clock => rfl

theorem note_harmless (home : Option CellId) :
    Harmless (machine h) (fun _ => True) (fun bs t => t = ⟨heard, bs, replies⟩)
      (RpcClient.note home) := by
  rintro p bs _ rfl
  cases home with
  | none => exact .done rfl
  | some cell =>
    refine .atRest (still _) trivial ⟨(), _, .noted⟩ fun _ t hr => ?_
    cases hr with
    | noted => exact .done rfl

/-! ## One call -/

/-- What a call comes to that receives this packet. -/
def outcome (p : Packet) : Except CallFailure ReplyPart :=
  match ErrorCode.ofNumber? p.errorCode with
  | some code => .error (.remote code)
  | none => .ok (if p.hasMore then .more else .last)

/-- A call received this packet into its envelope. -/
structure Received (p : Packet) (c : RpcClient) (r : Except CallFailure ReplyPart × RpcClient) :
    Prop where
  result : r.1 = outcome p
  same : Same r.2.packet p
  client : r.2 = { c with packet := r.2.packet }

/-- The next packet that is to come is read into the envelope. -/
theorem read_ends (handle : c.channel.handle = h) (whole : p.Whole)
    (fits : p.length.toNat ≤ c.channel.options.maxPayload) (left : Bytes) :
    Ends (machine h) (fun r t => Received p c r ∧ t = ⟨heard, left, replies⟩) (RpcClient.read.on c)
      ⟨heard, p.frame ++ left, replies⟩ := by
  subst handle
  have split : p.frame ++ left = p.header ++ (p.payload ++ left) := by
    rw [Packet.frame, List.append_assoc]
  have reads := reads c.channel.handle heard replies
  have small : p.payload.length ≤ c.channel.options.maxPayload := by rw [whole]; exact fits
  rw [RpcClient.on_read, Channel.readPacket_eq, split]
  refine .bind ((note_harmless c.home c.packet _ _ rfl).mono (fun _ ht => ht) fun _ t ht => ?_)
  refine .bind (.bind ((reads.deadline _ ht).mono (fun _ ht => ht) fun limit t' ht' => ?_))
  refine (reads.readPacketBy (note_harmless c.home) whole.isFrame small limit ht').mono
    (fun _ ht => ht) fun r u hr => ?_
  obtain ⟨rfl, hu⟩ := hr
  have same := Packet.receive_same whole c.packet
  refine .done ⟨⟨?_, same, rfl⟩, hu⟩
  simp only [RpcClient.verdict, outcome, same.errorCode, Packet.hasMore, same.option]
  rfl

/-- A packet that ends a reply, or that says that all is well, is kept as it was received. -/
theorem Received.settled {r : Except CallFailure ReplyPart × RpcClient} (h : Received p c r)
    (fair : p.hasMore = false ∨ p.errorCode = 0) : Received p c (RpcClient.settled r) := by
  obtain ⟨result, c'⟩ := r
  obtain ⟨same, packet, client⟩ := h
  cases result with
  | ok => exact ⟨same, packet, client⟩
  | error e =>
    have last : c'.packet.hasMore = false := by
      rcases fair with last | success
      · rw [Packet.hasMore, packet.option]
        exact last
      · rw [outcome, success] at same
        cases same
    rw [RpcClient.settled, RpcClient.edit, Packet.clearMore_of_last last]
    exact ⟨same, packet, client⟩

/-- While a reply is under way, a call only reads. -/
theorem call_more (handle : c.channel.handle = h) (more : c.packet.hasMore = true) (whole : p.Whole)
    (fits : p.length.toNat ≤ c.channel.options.maxPayload)
    (fair : p.hasMore = false ∨ p.errorCode = 0) (left : Bytes) :
    Ends (machine h) (fun r t => Received p c r ∧ t = ⟨heard, left, replies⟩) (RpcClient.call.on c)
      ⟨heard, p.frame ++ left, replies⟩ := by
  rw [RpcClient.on_call_more more]
  refine .bind ((read_ends handle whole fits left).mono (fun _ ht => ht) fun r t post => ?_)
  exact .done ⟨post.1.settled fair, post.2⟩

/-- Otherwise it sends the envelope, and reads the first packet of the reply. -/
theorem call_first {ps : List Packet} (handle : c.channel.handle = h)
    (last : c.packet.hasMore = false) (request : c.packet.Whole) (whole : p.Whole)
    (fits : p.length.toNat ≤ c.channel.options.maxPayload)
    (fair : p.hasMore = false ∨ p.errorCode = 0) :
    Ends (machine h)
      (fun r t => Received p c r ∧ t = ⟨heard ++ [c.packet.frame], wire ps, replies⟩)
      (RpcClient.call.on c) ⟨heard, [], (p :: ps) :: replies⟩ := by
  have sent : Answers h ⟨heard, [], (p :: ps) :: replies⟩ (.send c.channel.handle c.packet.frame)
      (.ok ()) ⟨heard ++ [c.packet.frame], p.frame ++ wire ps, replies⟩ := by
    rw [handle, ← wire_cons]
    exact .asked request.isFramed
  rw [RpcClient.on_call last]
  refine .bind (.request (still _) trivial ⟨_, _, sent⟩ fun r t hr => ?_)
  cases hr with
  | asked =>
    rw [List.nil_append, wire_cons]
    exact (read_ends handle whole fits (wire ps)).mono (fun _ ht => ht) fun r t post =>
      .done ⟨post.1.settled fair, post.2⟩

/-! ## One reply, and then all of them -/

/-- What a call came to, with the envelope after it. -/
abbrev Told := Except CallFailure ReplyPart × Packet

/-- A number of calls, one after the other. -/
def calls : Nat → RpcClient → Task (List Told × RpcClient)
  | 0, c => return ([], c)
  | n + 1, c => do
    let (result, c) ← RpcClient.call.on c
    let (told, c') ← calls n c
    return ((result, c.packet) :: told, c')

/-- A request that was prepared, and what the calls for it came to. -/
structure Exchanged where
  request : Packet
  told : List Told

/-- For each round, prepares a request and calls once for each packet of the reply. -/
def converse : List ((Packet → Packet) × List Packet) → RpcClient →
    Task (List Exchanged × RpcClient)
  | [], c => return ([], c)
  | (prepare, reply) :: rounds, c => do
    let request := prepare c.packet
    let (told, c) ← calls reply.length (c.edit fun _ => request)
    let (rest, c) ← converse rounds c
    return (⟨request, told⟩ :: rest, c)

/-- Preparing a request leaves no reply under way, and an envelope that holds its payload. -/
def Prepares (prepare : Packet → Packet) : Prop :=
  ∀ p, (prepare p).hasMore = false ∧ (prepare p).Whole

theorem prepares_prepare (protocol command index : UInt16) :
    Prepares (Packet.prepare protocol command index) :=
  fun _ => ⟨Packet.hasMore_of_option rfl, Packet.whole_of_length rfl⟩

/-- The calls came to the packets of a reply: to one that another follows, and at last to the end of
the reply or to its error code, each with the packet's scalars, carrier and payload. -/
inductive Tells : List Told → List Packet → Prop where
  | last {told : Told} {p : Packet}
      (result : told.1 = match ErrorCode.ofNumber? p.errorCode with
        | some code => .error (.remote code)
        | none => .ok .last)
      (same : Same told.2 p) : Tells [told] [p]
  | more {told : Told} {tolds : List Told} {p : Packet} {ps : List Packet}
      (result : told.1 = .ok .more) (same : Same told.2 p) (rest : Tells tolds ps) :
      Tells (told :: tolds) (p :: ps)

theorem outcome_last (last : p.hasMore = false) :
    outcome p = match ErrorCode.ofNumber? p.errorCode with
      | some code => .error (.remote code)
      | none => .ok .last := by
  rw [outcome, last]
  rfl

theorem outcome_more (more : p.hasMore = true) (success : p.errorCode = 0) :
    outcome p = .ok .more := by
  rw [outcome, success, more]
  rfl

/-- A call, and then the calls for the rest of the reply. -/
theorem calls_cons {limit : Nat} {ps : List Packet} {t : Peer} (proper : Reply limit (p :: ps))
    (first : Ends (machine h) (fun r t => Received p c r ∧ t = ⟨heard, wire ps, replies⟩)
      (RpcClient.call.on c) t)
    (others : Reply limit ps → ∀ c' : RpcClient, c'.channel = c.channel →
      c'.packet.hasMore = true →
      Ends (machine h) (fun r t => Tells r.1 ps ∧ r.2.channel = c'.channel ∧
        t = ⟨heard, [], replies⟩) (calls ps.length c') ⟨heard, wire ps, replies⟩) :
    Ends (machine h) (fun r t => Tells r.1 (p :: ps) ∧ r.2.channel = c.channel ∧
      t = ⟨heard, [], replies⟩) (calls (ps.length + 1) c) t := by
  refine .bind (first.mono (fun _ ht => ht) fun r t post => ?_)
  obtain ⟨⟨result, same, client⟩, rfl⟩ := post
  have channel : r.2.channel = c.channel := by rw [client]
  cases proper with
  | last last =>
    exact .done ⟨.last (result.trans (outcome_last last)) same, channel, rfl⟩
  | more more success _ _ rest =>
    have under : r.2.packet.hasMore = true := by rw [Packet.hasMore, same.option]; exact more
    refine .bind ((others rest r.2 channel under).mono (fun _ ht => ht) fun told t post => ?_)
    obtain ⟨tells, kept, rfl⟩ := post
    exact .done
      ⟨.more (result.trans (outcome_more more success)) same tells, kept.trans channel, rfl⟩

/-- The rest of a reply that is under way. -/
theorem calls_more {limit : Nat} {ps : List Packet} (proper : Reply limit ps) :
    ∀ c : RpcClient, c.channel.handle = h → c.channel.options.maxPayload = limit →
      c.packet.hasMore = true →
      Ends (machine h) (fun r t => Tells r.1 ps ∧ r.2.channel = c.channel ∧
        t = ⟨heard, [], replies⟩) (calls ps.length c) ⟨heard, wire ps, replies⟩ := by
  induction proper with
  | @last p last whole fits =>
    intro c handle limited under
    rw [wire_cons]
    exact calls_cons (.last last whole fits)
      (call_more handle under whole (limited ▸ fits) (.inl last) _) nofun
  | @more p ps more success whole fits rest ih =>
    intro c handle limited under
    rw [wire_cons]
    exact calls_cons (.more more success whole fits rest)
      (call_more handle under whole (limited ▸ fits) (.inr success) _)
      fun _ c' channel => ih c' (channel ▸ handle) (channel ▸ limited)

/-- All the calls for a request. -/
theorem calls_first {limit : Nat} {ps : List Packet} (proper : Reply limit ps)
    (handle : c.channel.handle = h) (limited : c.channel.options.maxPayload = limit)
    (last : c.packet.hasMore = false) (request : c.packet.Whole) (heard : List Bytes)
    (replies : List (List Packet)) :
    Ends (machine h) (fun r t => Tells r.1 ps ∧ r.2.channel = c.channel ∧
      t = ⟨heard ++ [c.packet.frame], [], replies⟩) (calls ps.length c)
      ⟨heard, [], ps :: replies⟩ := by
  cases proper with
  | last ends whole fits =>
    exact calls_cons (.last ends whole fits)
      (call_first handle last request whole (limited ▸ fits) (.inl ends)) nofun
  | more more success whole fits others =>
    exact calls_cons (.more more success whole fits others)
      (call_first handle last request whole (limited ▸ fits) (.inr success))
      fun proper c' channel => calls_more proper c' (channel ▸ handle) (channel ▸ limited)

/-- What one round came to: the request is the prepared one, and the calls came to the reply. -/
structure Exchanged.Of (x : Exchanged) (round : (Packet → Packet) × List Packet) : Prop where
  prepared : ∃ p, x.request = round.1 p
  tells : Tells x.told round.2

/-- Round for round, from wherever the peer has got to. -/
theorem converse_ends {limit : Nat} {rounds : List ((Packet → Packet) × List Packet)}
    (proper : ∀ round ∈ rounds, Prepares round.1 ∧ Reply limit round.2) :
    ∀ {c : RpcClient} (heard : List Bytes), c.channel.handle = h →
      c.channel.options.maxPayload = limit →
      Ends (machine h) (fun r t => List.Forall₂ Exchanged.Of r.1 rounds ∧
        t = ⟨heard ++ r.1.map (·.request.frame), [], []⟩)
        (converse rounds c) ⟨heard, [], rounds.map Prod.snd⟩ := by
  induction rounds with
  | nil =>
    intro c heard _ _
    refine .done ⟨.nil, ?_⟩
    rw [List.map_nil, List.map_nil, List.append_nil]
  | cons round rounds ih =>
    intro c heard handle limited
    obtain ⟨prepares, reply⟩ := proper round (List.mem_cons_self ..)
    have ready := prepares c.packet
    have first := calls_first (c := c.edit fun _ => round.1 c.packet) reply handle limited ready.1
      ready.2 heard (rounds.map Prod.snd)
    refine .bind (first.mono (fun _ ht => ht) fun r t post => ?_)
    obtain ⟨tells, channel, rfl⟩ := post
    have next := ih (fun round mem => proper round (List.mem_cons_of_mem _ mem))
      (c := r.2) (heard ++ [(round.1 c.packet).frame])
      (by rw [channel]; exact handle) (by rw [channel]; exact limited)
    refine .bind (next.mono (fun _ ht => ht) fun rest t post => ?_)
    obtain ⟨others, rfl⟩ := post
    refine .done ⟨.cons ⟨⟨c.packet, rfl⟩, tells⟩ others, ?_⟩
    rw [List.append_assoc]
    rfl

/-- **Replies of several packets are received in turn.** Whatever proper replies a peer gives and
however they are cut into pieces, a client that prepares a request and then calls once for each
packet of the reply gets from each call the next packet, as it was sent, and whether another
follows; it has sent one frame for each reply, the request that it prepared. After a call that
failed, however it failed and whatever was received, and on a new connection no reply is under way:
the next call begins by sending. -/
theorem replies_in_turn (c : RpcClient) :
    (∀ rounds, (∀ round ∈ rounds, Prepares round.1 ∧
        Reply c.channel.options.maxPayload round.2) →
      Ends (machine c.channel.handle) (fun r t => List.Forall₂ Exchanged.Of r.1 rounds ∧
        t = ⟨r.1.map (·.request.frame), [], []⟩)
        (converse rounds c) ⟨[], [], rounds.map Prod.snd⟩) ∧
    (∀ acts e c', Prog.Runs (RpcClient.call.on c) acts (.error e, c') →
      c'.packet.hasMore = false ∧ c'.SendsFirst) ∧
    (∀ acts c', Prog.Runs (RpcClient.reconnect.on c) acts (.ok (), c') →
      c'.packet.hasMore = false ∧ c'.SendsFirst) :=
  ⟨fun _ proper => converse_ends proper [] rfl rfl, fun _ _ _ => RpcClient.call_after_failure,
    fun _ _ => RpcClient.call_after_reconnect⟩

namespace Reading

/-- A client with a packet of another announced in its envelope. -/
def client : RpcClient where
  endpoint := .unix "./p.sock"
  options := {}
  channel := ⟨⟨0, .dialer⟩, {}⟩
  packet := { Packet.empty with option := Protocol.morePackets }

/-- Two packets, and one that says what went wrong. -/
def rounds : List ((Packet → Packet) × List Packet) :=
  [(Packet.prepare 1 2 3, [{ option := Protocol.morePackets, length := 3, trailing := [1, 2, 3] },
      { index := 7, trailing := [] }]),
    (Packet.prepare 1 2 4, [{ errorCode := ErrorCode.timedOut.number, trailing := [] }])]

theorem proper : ∀ round ∈ rounds, Prepares round.1 ∧
    Reply client.channel.options.maxPayload round.2 := by
  intro round mem
  rcases List.mem_cons.mp mem with rfl | mem
  · exact ⟨prepares_prepare 1 2 3, .more (by decide) rfl rfl (by decide)
      (.last (by decide) rfl (by decide))⟩
  · obtain rfl := List.mem_singleton.mp mem
    exact ⟨prepares_prepare 1 2 4, .last (by decide) rfl (by decide)⟩

/-- A call that is not answered in time, while a reply is under way. -/
theorem late : Prog.Runs (RpcClient.call.on client) [⟨.receive ⟨0, .dialer⟩ 32 none, .late⟩]
    (.error (.link .timedOut), client.edit Packet.clearMore) := by
  rw [RpcClient.on_call_more (by decide), RpcClient.on_read, Channel.readPacket_eq]
  unfold Channel.readPacketBy
  simp only [RpcClient.note, client, deadline, Prog.pure_eq, Prog.done_bind, headerSize,
    receiveExactly]
  show Prog.Runs (.ask (Act.receive ⟨0, .dialer⟩ 32 none) _) _ _
  exact .ask _ (.done _)

/-- Three packets are received for two requests, and a call that comes too late ends the reply. -/
theorem replies_in_turn_twice :
    (∃ r t, Machine.Yields (machine ⟨0, .dialer⟩) (converse rounds client)
        ⟨[], [], rounds.map Prod.snd⟩ r t ∧
      t.heard.length = 2 ∧ r.1.map (·.told.map Prod.fst) =
        [[.ok .more, .ok .last], [.error (.remote .timedOut)]]) ∧
    (client.edit Packet.clearMore).SendsFirst := by
  obtain ⟨conversation, failed, -⟩ := replies_in_turn client
  refine ⟨?_, (failed _ _ _ late).2⟩
  obtain ⟨r, t, run, exchanged, rfl⟩ := (conversation rounds proper).exists_yields
  refine ⟨r, _, run, ?_⟩
  obtain ⟨exchanges, c⟩ := r
  obtain ⟨⟨_, _⟩, _, ⟨-, first⟩, others, same⟩ := List.forall₂_cons_right_iff.mp exchanged
  obtain ⟨⟨_, _⟩, _, ⟨-, second⟩, none, rfl⟩ := List.forall₂_cons_right_iff.mp others
  cases List.forall₂_nil_right_iff.mp none
  obtain rfl : exchanges = _ := same
  refine ⟨rfl, ?_⟩
  cases first with
  | more more _ rest =>
    cases rest with
    | last last =>
      cases second with
      | last failure =>
        simp only [List.map_cons, List.map_nil, more, last, failure]
        rfl
      | more _ _ rest => cases rest
    | more _ _ rest => cases rest

end Reading

end Peer

end DeviceRpc
