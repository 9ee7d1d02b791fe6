import DeviceRpc.Bench.Work
import DeviceRpc.Proofs.Dispatch.Envelope
import DeviceRpc.Proofs.Link.Reading

/-!
# A served connection

A server works between a connection and the rest of its node. The rest is a `Host`: it answers what
dispatching asks, by any relation, so devices, relays and their networks may behave as they like.
The connection is a `Feed`: the bytes that the client has yet to bring, and what was sent to it. A
feed answers what serving asks, in every way a reliable connection may: a piece of the stream is as
long as the machine likes.

**One round** of the server on a feed is told by what the stream begins with. A frame that is
accepted is dispatched, in whatever envelope the server has, and the reply's frame is sent
(`round_answers`); a header that announces too much is refused once (`round_refuses`); where no
request comes whole, nothing is sent (`round_stops`).
-/

namespace DeviceRpc

open Packet (IsFrame Same announced)

/-- What a server asks for itself, on the side of the connection that it accepted. -/
def Act.IsServing : Act → Prop
  | receive h _ _ | send h _ | hangUp h => h.side = .acceptor
  | offer _ | record _ _ => True
  | _ => False

/-- What answers the dispatches of a node, and the objects it has. -/
structure Host (τ : Type) where
  machine : Machine τ
  registry : Registry Object
  clock_live : ∀ t, ∃ r t', machine.answers t .now r t'
  /-- Looking at the clock changes nothing. -/
  clock_same : ∀ {t r t'}, machine.answers t .now r t' → t' = t
  /-- The connections of the node's own server are not its business. -/
  apart : ∀ t a r t', machine.answers t a r t' → ¬ a.IsServing

/-- A connection as its server has it. -/
structure Feed (τ : Type) where
  /-- What is still to be received. -/
  rem : Bytes
  /-- Whether the client sends nothing more. -/
  closed : Bool
  /-- What was sent, in order. -/
  out : List Bytes := []
  host : τ

namespace Host

variable {τ : Type}

/-- How a feed answers. -/
inductive FedAnswers (H : Host τ) : Feed τ → (a : Act) → a.Reply → Feed τ → Prop where
  | chunk {s : Feed τ} {h : Handle} {n : Nat} {limit : Option Instant} {first : UInt8}
      {rest left : Bytes} (side : h.side = .acceptor) (split : s.rem = first :: rest ++ left)
      (short : rest.length < max n 1) :
      FedAnswers H s (.receive h n limit) (.bytes first rest) { s with rem := left }
  | ended {s : Feed τ} {h : Handle} {n : Nat} {limit : Option Instant}
      (side : h.side = .acceptor) (empty : s.rem = []) (closed : s.closed = true) :
      FedAnswers H s (.receive h n limit) .ended s
  | sent {s : Feed τ} {h : Handle} {bs : Bytes} (side : h.side = .acceptor) :
      FedAnswers H s (.send h bs) (.ok ()) { s with out := s.out ++ [bs] }
  | hungUp {s : Feed τ} {h : Handle} (side : h.side = .acceptor) :
      FedAnswers H s (.hangUp h) () s
  | offered {s : Feed τ} {node : NodeId} (draining : Bool) :
      FedAnswers H s (.offer node) { kind := .pdu, registry := H.registry, draining } s
  | recorded {s : Feed τ} {node : NodeId} {event : NodeMetrics.Event} :
      FedAnswers H s (.record node event) () s
  | host {s : Feed τ} {a : Act} {r : a.Reply} {t' : τ} (h : H.machine.answers s.host a r t') :
      FedAnswers H s a r { s with host := t' }

/-- The host with a connection that is served. -/
def fed (H : Host τ) : Machine (Feed τ) where
  silent s s' := ∃ t', H.machine.silent s.host t' ∧ s' = { s with host := t' }
  answers := FedAnswers H

/-- Nothing but this has been sent. -/
def Quiet (out : List Bytes) (s : Feed τ) : Prop := s.out = out

/-- The feed with these bytes to come, and all the rest known. -/
structure Offers (H : Host τ) (closed : Bool) (out : List Bytes) (t : τ) (bs : Bytes)
    (s : Feed τ) : Prop where
  eq : s = ⟨bs, closed, out, t⟩
  still : H.machine.Still t

variable {H : Host τ}

theorem fed_still {s : Feed τ} (h : H.machine.Still s.host) : H.fed.Still s :=
  fun _ ⟨t', ht, _⟩ => h t' ht

/-! ## What the acts of a server come to -/

theorem fed_receive {s s' : Feed τ} {h : Handle} (side : h.side = .acceptor) {n : Nat}
    {limit : Option Instant} {r : Received} (hr : H.fed.answers s (.receive h n limit) r s') :
    (∃ first rest left, r = .bytes first rest ∧ s.rem = first :: rest ++ left ∧
      rest.length < max n 1 ∧ s' = { s with rem := left }) ∨
    (s.rem = [] ∧ s.closed = true ∧ r = .ended ∧ s' = s) := by
  cases hr with
  | chunk _ split short => exact .inl ⟨_, _, _, rfl, split, short, rfl⟩
  | ended _ empty closed => exact .inr ⟨empty, closed, rfl, rfl⟩
  | host h => exact absurd side (H.apart _ _ _ _ h)

theorem fed_send {s s' : Feed τ} {h : Handle} (side : h.side = .acceptor) {bs : Bytes}
    {r : Except LinkFailure Unit} (hr : H.fed.answers s (.send h bs) r s') :
    r = .ok () ∧ s' = { s with out := s.out ++ [bs] } := by
  cases hr with
  | sent => exact ⟨rfl, rfl⟩
  | host h => exact absurd side (H.apart _ _ _ _ h)

theorem fed_hangUp {s s' : Feed τ} {h : Handle} (side : h.side = .acceptor) {r : Unit}
    (hr : H.fed.answers s (.hangUp h) r s') : s' = s := by
  cases hr with
  | hungUp => rfl
  | host h => exact absurd side (H.apart _ _ _ _ h)

theorem fed_offer {s s' : Feed τ} {node : NodeId} {r : Offer}
    (hr : H.fed.answers s (.offer node) r s') :
    r.kind = .pdu ∧ r.registry = H.registry ∧ s' = s := by
  cases hr with
  | offered => exact ⟨rfl, rfl, rfl⟩
  | host h => exact absurd trivial (H.apart _ _ _ _ h)

theorem fed_record {s s' : Feed τ} {node : NodeId} {event : NodeMetrics.Event} {r : Unit}
    (hr : H.fed.answers s (.record node event) r s') : s' = s := by
  cases hr with
  | recorded => rfl
  | host h => exact absurd trivial (H.apart _ _ _ _ h)

theorem fed_now {s s' : Feed τ} {r : Instant} (hr : H.fed.answers s .now r s') : s' = s := by
  cases hr with
  | host h => rw [H.clock_same h]

/-- What is not the server's business is the host's. -/
theorem fed_foreign {f f' : Feed τ} {b : Act} {r : b.Reply} (foreign : ¬ b.IsServing)
    (hr : H.fed.answers f b r f') :
    ∃ t', H.machine.answers f.host b r t' ∧ f' = { f with host := t' } := by
  cases hr with
  | chunk side | ended side | sent side | hungUp side => exact absurd side foreign
  | offered | recorded => exact absurd trivial foreign
  | host h => exact ⟨_, h, rfl⟩

/-- What the host is asked, it is asked on the feed too, which stays as it is. -/
theorem fed_simulates (H : Host τ) (bs : Bytes) (closed : Bool) (out : List Bytes) :
    H.machine.Simulates H.fed (fun t s => s = ⟨bs, closed, out, t⟩) where
  canMove := by
    rintro t t' _ rfl moved
    exact ⟨_, t', moved, rfl⟩
  canAnswer := by
    rintro t a r t' _ rfl hr
    exact ⟨r, _, .host hr⟩
  silent := by
    rintro t _ s' rfl ⟨t', moved, rfl⟩
    exact ⟨t', moved, rfl⟩
  answers := by
    rintro t _ a r s' rfl ⟨u, x, u', known⟩ hr
    exact fed_foreign (H.apart u a x u' known) hr

/-- The accepting side has the feed to read. -/
theorem reads (H : Host τ) {h : Handle} (side : h.side = .acceptor) (closed : Bool)
    (out : List Bytes) (t : τ) : Reads H.fed (Quiet out) h (H.Offers closed out t) where
  within hS := by rw [hS.eq]; rfl
  still hS := by rw [hS.eq]; exact fed_still hS.still
  live n limit hS := by
    rw [hS.eq]
    exact ⟨.bytes _ [], _, .chunk side rfl (by rw [List.length_nil]; omega)⟩
  chunk {bs} _ _ _ _ _ hS hr := by
    rw [hS.eq] at hr
    obtain ⟨first, rest, left, rfl, split, short, rfl⟩ | ⟨empty, -, rfl, rfl⟩ :=
      fed_receive side hr
    · exact .inl ⟨first, rest, left, rfl, split, short, rfl, hS.still⟩
    · obtain rfl : bs = [] := empty
      exact .inr ⟨rfl, rfl, rfl, hS.still⟩
  clock_live hS := by
    obtain ⟨r, t', hr⟩ := H.clock_live t
    rw [hS.eq]
    exact ⟨r, _, .host hr⟩
  clock hS hr := by rw [fed_now hr]; exact hS

theorem closes (H : Host τ) {h : Handle} (side : h.side = .acceptor) (out : List Bytes) (t : τ) :
    Closes H.fed h (H.Offers true out t) := by
  intro s n limit hS
  rw [hS.eq]
  exact ⟨.ended, _, .ended side rfl rfl⟩

/-! ## One round -/

section

/-- A run of the host alone is a run on the feed, which stays as it is. -/
theorem fed_run {α β : Type} {Q : α → τ → Prop} {R : β → Feed τ → Prop} {p : Task α}
    {bs : Bytes} {closed : Bool} {out : List Bytes} {t : τ} (h : Ends H.machine Q p t)
    {f : α → Task β}
    (after : ∀ a t', Q a t' →
      EndsWithin H.fed (Quiet out) R (f a) ⟨bs, closed, out, t'⟩) :
    EndsWithin H.fed (Quiet out) R (p >>= f) ⟨bs, closed, out, t⟩ := by
  refine h.simulate (H.fed_simulates bs closed out) ?_ rfl ?_
  · rintro t _ rfl
    rfl
  · rintro a t _ here rfl
    exact after a t here

variable {Q : Packet → τ → Prop} {bs : Bytes} {closed : Bool} {out : List Bytes} {t : τ}
  {p q : Packet} {node : NodeId} {options : LinkOptions} {connection : ConnectionId}

/-- A request is dispatched, and only counted beside that. -/
theorem answer_ends (same : Same p q) (still : H.machine.Still t)
    (dispatch : Ends H.machine Q (Pdu.service.dispatch H.registry q) t)
    (rests : ∀ d t', Q d t' → H.machine.Still t') :
    EndsWithin H.fed (Quiet out)
      (fun e s => ∃ d t', Replies q.option d e ∧ Q d t' ∧ s = ⟨bs, closed, out, t'⟩)
      (Server.answer node p) ⟨bs, closed, out, t⟩ := by
  have clock (t' : τ) : ∃ r s', H.fed.answers ⟨bs, closed, out, t'⟩ .now r s' := by
    obtain ⟨r, t'', hr⟩ := H.clock_live t'
    exact ⟨r, _, .host hr⟩
  unfold Server.answer
  refine .request (fed_still still) rfl (clock t) fun started s hs => ?_
  rw [fed_now hs]
  refine .request (fed_still still) rfl ⟨_, _, .offered false⟩ fun offer s hs => ?_
  obtain ⟨kind, registry, rfl⟩ := fed_offer hs
  have service : offer.dispatch p = Pdu.service.dispatch H.registry p := by
    rw [Offer.dispatch, kind, registry]; rfl
  rw [service]
  have alike := Service.dispatch_alike (s := Pdu.service) Pdu.table_blind H.registry same.symm
  refine fed_run (dispatch.alike alike) fun e t' hd => ?_
  obtain ⟨d, replies, hQ⟩ := hd
  have still' := rests d t' hQ
  refine .request (fed_still still') rfl (clock t') fun ended s hs => ?_
  rw [fed_now hs]
  refine .request (fed_still still') rfl ⟨_, _, .recorded⟩ fun _ s hs => ?_
  rw [fed_record hs]
  exact .done ⟨d, t', replies, hQ, rfl⟩

/-- A frame that is accepted is answered by what dispatching it gives, in any envelope. -/
theorem round_answers {header payload : Bytes} (frame : IsFrame header payload)
    (fits : payload.length ≤ options.maxPayload) (same : Same (p.receive header payload) q)
    (still : H.machine.Still t)
    (dispatch : Ends H.machine Q (Pdu.service.dispatch H.registry q) t)
    (rests : ∀ d t', Q d t' → H.machine.Still t') :
    EndsWithin H.fed (Quiet out)
      (fun e s => ∃ p' d t',
        e = .become (.connection node ⟨⟨connection, .acceptor⟩, options⟩ p') ∧
        Replies q.option d p' ∧ Q d t' ∧ s = ⟨bs, closed, out ++ [d.frame], t'⟩)
      (Job.connection node ⟨⟨connection, .acceptor⟩, options⟩ p).round
      ⟨header ++ (payload ++ bs), closed, out, t⟩ := by
  refine .bind (.bind (((H.reads rfl closed out t).readRequest frame fits ⟨rfl, still⟩).mono
    (fun _ ht => ht) fun r s hr => ?_))
  obtain ⟨rfl, hS⟩ := hr
  rw [hS.eq]
  refine .bind ((answer_ends same still dispatch rests).mono (fun _ ht => ht) fun e s he => ?_)
  obtain ⟨d, t', replies, hQ, rfl⟩ := he
  refine .request (fed_still (rests d t' hQ)) rfl ⟨_, _, .sent rfl⟩ fun r s hs => ?_
  obtain ⟨rfl, rfl⟩ := fed_send rfl hs
  refine .done (.done ⟨e, d, t', rfl, replies, hQ, ?_⟩)
  rw [replies.same.frame]

/-- How a connection ends: its end is counted, and it is closed. -/
theorem ends_over (still : H.machine.Still t) (I : Feed τ → Prop)
    (within : I ⟨bs, closed, out, t⟩) :
    EndsWithin H.fed I (fun e s => e = .over .done ∧ s = ⟨bs, closed, out, t⟩)
      (do
        ask (.record node .connectionClosed)
        Channel.close ⟨⟨connection, .acceptor⟩, options⟩
        return .over .done : Task Ending) ⟨bs, closed, out, t⟩ := by
  refine .request (fed_still still) within ⟨_, _, .recorded⟩ fun _ s hs => ?_
  rw [fed_record hs]
  refine .request (fed_still still) within ⟨_, _, .hungUp rfl⟩ fun _ s hs => ?_
  rw [fed_hangUp rfl hs]
  exact .done ⟨rfl, rfl⟩

/-- A header that announces too much is refused, and nothing is dispatched. -/
theorem round_refuses {header : Bytes} (len : header.length = headerSize)
    (large : options.maxPayload < (announced header).toNat) (still : H.machine.Still t) :
    Ends H.fed
      (fun e s => e = .over .done ∧
        s = ⟨bs, closed, out ++ [(Server.refusal (p.readHeader header)).frame], t⟩)
      (Job.connection node ⟨⟨connection, .acceptor⟩, options⟩ p).round
      ⟨header ++ bs, closed, out, t⟩ := by
  refine .bind (.bind (((H.reads rfl closed out t).readRequest_tooLarge len large
    ⟨rfl, still⟩).mono (fun _ _ => trivial) fun r s hr => ?_))
  obtain ⟨rfl, hS⟩ := hr
  rw [hS.eq]
  refine .request (fed_still still) trivial ⟨_, _, .recorded⟩ fun _ s hs => ?_
  rw [fed_record hs]
  refine .bind (.request (fed_still still) trivial ⟨_, _, .sent rfl⟩ fun r s hs => ?_)
  obtain ⟨rfl, rfl⟩ := fed_send rfl hs
  exact .done (.done (ends_over still _ trivial))

/-- Where no request comes whole, the connection ends without another word. -/
theorem round_stops {rest : Bytes}
    (short : rest.length < headerSize ∨ ∃ header bs, rest = header ++ bs ∧
      header.length = headerSize ∧ (announced header).toNat ≤ options.maxPayload ∧
      bs.length < (announced header).toNat) (still : H.machine.Still t) :
    Ends H.fed (fun e s => e = .over .done ∧ s = ⟨[], true, out, t⟩)
      (Job.connection node ⟨⟨connection, .acceptor⟩, options⟩ p).round ⟨rest, true, out, t⟩ := by
  have reads := H.reads (h := ⟨connection, .acceptor⟩) rfl true out t
  have closes := H.closes (h := ⟨connection, .acceptor⟩) rfl out t
  have noRequest : EndsWithin H.fed (Quiet out)
      (fun r s => r.2 = .error .closed ∧ H.Offers true out t [] s)
      (Channel.readRequest ⟨⟨connection, .acceptor⟩, options⟩ p) ⟨rest, true, out, t⟩ := by
    rcases short with noHeader | ⟨header, bs, rfl, len, fits, noPayload⟩
    · exact (reads.readRequest_noHeader closes noHeader ⟨rfl, still⟩).mono (fun _ within => within)
        fun _ _ post => ⟨congrArg Prod.snd post.1, post.2⟩
    · exact reads.readRequest_noPayload closes len fits noPayload ⟨rfl, still⟩
  refine .bind (.bind (noRequest.mono (fun _ _ => trivial) fun r s hr => ?_))
  obtain ⟨p', failure⟩ := r
  obtain ⟨rfl, hS⟩ : failure = .error .closed ∧ H.Offers true out t [] s := hr
  rw [hS.eq]
  exact .done (ends_over still _ trivial)

/-- A connection that was accepted is counted, and gets an empty envelope. -/
theorem round_opens (node : NodeId) (channel : Channel) (still : H.machine.Still t) :
    EndsWithin H.fed (Quiet out)
      (fun e s => e = .become (.connection node channel .empty) ∧ s = ⟨bs, closed, out, t⟩)
      (Job.opening node channel).round ⟨bs, closed, out, t⟩ := by
  refine .request (fed_still still) rfl ⟨_, _, .recorded⟩ fun _ s hs => ?_
  rw [fed_record hs]
  exact .done ⟨rfl, rfl⟩

end

end Host

end DeviceRpc
