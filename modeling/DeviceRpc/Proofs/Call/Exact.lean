import DeviceRpc.Proofs.Call.Remote
import DeviceRpc.Proofs.Dispatch.Leftovers
import DeviceRpc.Proofs.Dispatch.Outward
import DeviceRpc.Proofs.Relay.Reliable

/-!
# A call comes to its dispatch

What a call over a reliable connection ends in is what dispatching its request in place ends in, and
nothing more and nothing less (`Host.call_iff`). So two calls come to the same as soon as their
dispatches do, whatever the devices may answer and however the two connections are cut and
scheduled.

One direction runs the server to its reply. For the other one the caller waits, so a run of the two
is a run of the server; what the caller was shown to end in is carried along it to the point where
the request is dispatched (`Host.server_goes`), through the dispatch, act by act
(`Host.dispatch_drained`), and on to the reply.

A client of a unit is put down on the way if it is shared, and hangs up when it forgets its
connection, so its surroundings (`Host.home`) answer that too.
-/

namespace DeviceRpc

open Packet (Same)

namespace Host

variable {τ α β : Type}

/-- How the acts of a unit's client are answered. -/
inductive HomeAnswers (H : Host τ) (node : NodeId) (options : LinkOptions) :
    Remote τ → (a : Act) → a.Reply → Remote τ → Prop where
  | far {s s' : Remote τ} {a : Act} {r : a.Reply} (h : RemoteAnswers H node options s a r s') :
      HomeAnswers H node options s a r s'
  | kept {s : Remote τ} {cell : CellId} {c : PduClient} :
      HomeAnswers H node options s (.keepPduClient cell c) () s
  /-- With no request under way, only the connection ends. -/
  | hungUp {s : Remote τ} {t : τ} (ready : Ready node options t s) :
      HomeAnswers H node options s (.hangUp .caller) () ⟨none, t⟩

/-- The surroundings of a unit's client: one connection to a node that serves it, and a place to be
put down. -/
def home (H : Host τ) (node : NodeId) (options : LinkOptions) : Machine (Remote τ) where
  silent := RemoteMoves H
  answers := HomeAnswers H node options

variable {H : Host τ} {node : NodeId} {options copts : LinkOptions}

theorem remote_simulates (H : Host τ) (node : NodeId) (options : LinkOptions) :
    (H.remote node options).Simulates (H.home node options) Eq where
  canMove := by
    intro s s' _ same moved
    subst same
    exact ⟨s', moved⟩
  canAnswer := by
    intro s a r s' _ same hr
    subst same
    exact ⟨r, s', .far hr⟩
  silent := by
    intro s _ s' same moved
    subst same
    exact ⟨s', moved, rfl⟩
  answers := by
    intro s _ a r s' same known hr
    subst same
    obtain ⟨u, x, u', known⟩ := known
    cases hr with
    | far h => exact ⟨s', h, rfl⟩
    | kept => cases known
    | hungUp => cases known

/-- What a caller ends in, it ends in as a part of a client. -/
theorem home_ends {Q : α → Remote τ → Prop} {p : Task α} {s : Remote τ}
    (h : Ends (H.remote node options) Q p s) : Ends (H.home node options) Q p s := by
  have ends : Ends (H.home node options) Q (p >>= .done) s := by
    refine h.simulate (remote_simulates H node options) (fun _ _ _ => trivial) rfl ?_
    intro a s' _ here same
    exact .done (same ▸ here)
  exact bind_pure p ▸ ends

/-- The server may open a new connection at once. -/
theorem opens (H : Host τ) (node : NodeId) (options : LinkOptions) (t : τ) :
    (H.home node options).silent (fresh node options t) (idle node options .empty t) := by
  have asks : (Job.opening node ⟨.server, options⟩).round = .ask (.record node .connectionOpened)
      fun _ => .done (.become (.connection node ⟨.server, options⟩ .empty)) := rfl
  exact .serve (w := ⟨_, [], []⟩) asks .recorded

/-! ## While the server works -/

section

variable {R : α → Remote τ → Prop} {a : Act} {next : a.Reply → Task α}

/-- The caller waits while the server comes through a part of its round. -/
theorem server_goes {S : β → Feed τ → Prop} {Y : Task β} {f : Feed τ}
    (h : EndsWithin H.fed (Quiet []) S Y f) (opened : f.closed = false) {K : β → Task Ending}
    (ends : Ends (H.home node options) R (.ask a next)
      ⟨some ⟨resumed (Y >>= K), f.rem, f.out.flatten⟩, f.host⟩) :
    ∃ y f', S y f' ∧ f'.closed = false ∧ Ends (H.home node options) R (.ask a next)
      ⟨some ⟨resumed (K y), f'.rem, f'.out.flatten⟩, f'.host⟩ := by
  induction h with
  | done here => exact ⟨_, _, here, opened, ends⟩
  | @ask b rest f quiet live _ _ later go =>
    obtain ⟨rem, closed, out, t⟩ := f
    obtain rfl : closed = false := opened
    obtain rfl : out = [] := quiet
    rcases live with ⟨f', t', moved, rfl⟩ | ⟨r, f', hr⟩
    · exact later _ ⟨t', moved, rfl⟩ rfl (ends.moved (.host moved))
    · have asks : resumed (.ask b rest >>= K) = .ask b fun r => rest r >>= K := rfl
      exact go r f' hr (fed_closed hr) (ends.moved (.serve (w := ⟨_, rem, []⟩) asks hr))

/-- While the server carries out a request, what the caller comes to is what carrying it out comes
to. -/
theorem dispatch_drained (lawful : H.Lawful) {P : β → Prop} {n : Nat} {limit : Option Instant}
    {next : Received → Task α} {X : Task β} (outward : Outward P X) {K : β → Task Ending} {t : τ}
    (ends : Ends (H.home node options) R (.ask (.receive .caller n limit) next)
      ⟨some ⟨resumed (X >>= K), [], []⟩, t⟩) :
    Ends H.machine (fun y t' => Ends (H.home node options) R (.ask (.receive .caller n limit) next)
      ⟨some ⟨resumed (K y), [], []⟩, t'⟩) X t := by
  generalize hp : (.ask (.receive .caller n limit) next : Task α) = p at ends
  generalize hs : (⟨some ⟨resumed (X >>= K), [], []⟩, t⟩ : Remote τ) = s at ends
  induction ends generalizing X t with
  | done => cases hp
  | @ask a' next' s within live hlater hgo later go =>
    subst hs
    cases X with
    | done y =>
      exact .done (.ask within live hlater hgo)
    | ask b rest =>
      have foreign : ¬ b.IsServing := outward.1
      have stays (r : b.Reply) (allowed : b.Allows r) : Outward P (rest r) := outward.2 r () allowed
      refine .ask trivial ?_ (fun t' moved => ?_) fun r t' hr => ?_
      · -- nothing is there for the caller to receive, so it is the server that can go on
        rcases live with ⟨s', moved⟩ | ⟨r, s', hr⟩
        · cases moved with
          | host moved => exact .inl ⟨_, moved⟩
          | serve asks hr =>
            cases asks
            obtain ⟨t', hr, -⟩ := fed_foreign foreign hr
            exact .inr ⟨_, t', hr⟩
        · cases hp
          cases hr with
          | far hr =>
            cases hr with
            | arrived split => cases split
      · exact later _ (.host moved) outward hp rfl
      · have asks : resumed (.ask b rest >>= K) = .ask b fun r => rest r >>= K := rfl
        have served : H.fed.answers ⟨[], false, [], t⟩ b r ⟨[], false, [], t'⟩ := .host hr
        exact later _ (.serve (w := ⟨_, [], []⟩) asks served) (stays r (lawful _ _ _ _ hr)) hp rfl

end

/-! ## The two parts of a server's round -/

/-- What a server does once a request was carried out. -/
def replying (node : NodeId) (options : LinkOptions) (started : Instant) (p reply : Packet) :
    Task Ending := do
  let took := (← ask .now) - started
  ask (.record node (.dispatched p.command reply.errorCode (took * nanosPerMilli)))
  match ← Channel.writePacket ⟨.server, options⟩ reply with
  | .ok () => return .become (.connection node ⟨.server, options⟩ reply)
  | .error e =>
    Server.recordFailure node e
    ask (.record node .connectionClosed)
    Channel.close ⟨.server, options⟩
    return .over .done

/-- A round reads a request, carries it out and replies. -/
theorem waiting_eq (node : NodeId) (options : LinkOptions) (e : Packet) :
    ∃ K : Packet × Except LinkFailure Unit → Task Ending,
      waiting node options e = Channel.readRequest ⟨.server, options⟩ e >>= K ∧
      ∀ p, K (p, .ok ()) = ask .now >>= fun started => ask (.offer node) >>= fun offer =>
        offer.dispatch p >>= replying node options started p := by
  refine ⟨_, bind_assoc _ _ _, fun p => ?_⟩
  simp only [Server.answer, bind_assoc]
  congr 1
  funext started
  congr 1
  funext offer
  congr 1
  funext reply
  unfold replying
  congr 1
  funext ended
  congr 1
  funext _
  rw [pure_bind]
  congr 1
  funext sent
  cases sent with
  | ok => rfl
  | error e => rfl

/-- The reply is sent, and the next round waits with its envelope. -/
theorem replying_ends {t : τ} (still : H.machine.Still t) (started : Instant) (p d : Packet) :
    EndsWithin H.fed (Quiet [])
      (fun y f => y = .become (.connection node ⟨.server, options⟩ d) ∧
        f = ⟨[], false, [d.frame], t⟩)
      (replying node options started p d) ⟨[], false, [], t⟩ := by
  have clock : ∃ r f, H.fed.answers ⟨[], false, [], t⟩ .now r f := by
    obtain ⟨r, t', hr⟩ := H.clock_live t
    exact ⟨r, _, .host hr⟩
  refine .request (fed_still still) rfl clock fun ended f hf => ?_
  rw [fed_now hf]
  refine .request (fed_still still) rfl ⟨_, _, .recorded⟩ fun _ f hf => ?_
  rw [fed_record hf]
  refine .request (fed_still still) rfl ⟨_, _, .sent rfl⟩ fun r f hf => ?_
  obtain ⟨rfl, rfl⟩ := fed_send rfl hf
  exact .done ⟨rfl, rfl⟩

/-! ## One call -/

/-- The limits let a request and whatever it is answered with through, and when it has been carried
out nothing more happens by itself. -/
structure Admits (H : Host τ) (options copts : LinkOptions) (t : τ) (p : Packet) : Prop where
  last : p.hasMore = false
  fits : p.length.toNat ≤ options.maxPayload
  settles : ∀ d t', H.machine.Yields (Pdu.service.dispatch H.registry p) t d t' →
    H.machine.Still t' ∧ d.length.toNat ≤ copts.maxPayload

/-- Clock and envelope do not keep the caller from waiting for its reply. -/
theorem awaits_receives {P : Task β → Prop} {R : α → Remote τ → Prop} {g : β → Task α}
    {s : Remote τ} {q : Task β} (h : Awaits P q) (ends : Ends (H.home node options) R (q >>= g) s) :
    ∃ n limit next, P (.ask (.receive .caller n limit) next) ∧
      Ends (H.home node options) R (.ask (.receive .caller n limit) next >>= g) s := by
  induction h with
  | receive here => exact ⟨_, _, _, here, ends⟩
  | clock _ ih => exact ih 0 (ends.answered (.far (.clock 0)))
  | noted _ ih => exact ih (ends.answered (.far .noted))

section

variable {R : α → Remote τ → Prop} {c : RpcClient} {e p : Packet} {t : τ}
  (lawful : H.Lawful) (same : Same c.packet p) (admits : H.Admits options copts t p)
  (still : H.machine.Still t)

include lawful same admits still

/-- What waiting for the reply to a request was shown to end in, dispatching the request ends in. -/
theorem receives_dispatch {n : Nat} {limit : Option Instant} {next : Received → Task α}
    (ends : Ends (H.home node options) R (.ask (.receive .caller n limit) next)
      ⟨some ⟨waiting node options e, c.packet.frame, []⟩, t⟩) :
    Ends H.machine
      (fun d t' => ∃ e', d.Whole ∧ d.hasMore = false ∧
        Ends (H.home node options) R (.ask (.receive .caller n limit) next)
          ⟨some ⟨waiting node options e', [], d.frame⟩, t'⟩)
      (Pdu.service.dispatch H.registry p) t := by
  have accepted : c.packet.payload.length ≤ options.maxPayload := by
    rw [same.whole, same.length]
    exact admits.fits
  have frame : c.packet.frame = c.packet.header ++ (c.packet.payload ++ []) := by
    rw [List.append_nil, Packet.frame]
  obtain ⟨K, round, goesOn⟩ := waiting_eq node options e
  rw [frame, ← resumed_waiting, round] at ends
  -- the request is read
  have offered : H.Offers false [] t (c.packet.header ++ (c.packet.payload ++ []))
      ⟨c.packet.header ++ (c.packet.payload ++ []), false, [], t⟩ := ⟨rfl, still⟩
  have reads := (H.reads (h := .server) rfl false [] t).readRequest (p := e)
    same.whole.isFrame accepted offered
  obtain ⟨_, f, ⟨rfl, rfl, -⟩, -, ends⟩ := server_goes reads rfl ends
  have arrived : Same (e.receive c.packet.header c.packet.payload) p :=
    (Packet.receive_same same.whole e).trans same
  rw [goesOn] at ends
  generalize e.receive c.packet.header c.packet.payload = p₁ at arrived ends
  -- it is dispatched
  have clock : EndsWithin H.fed (Quiet []) (fun _ f => f = ⟨[], false, [], t⟩) (ask .now)
      ⟨[], false, [], t⟩ := by
    obtain ⟨r, t', hr⟩ := H.clock_live t
    exact .atRest (fed_still still) rfl ⟨r, _, .host hr⟩ fun r f hf => .done (fed_now hf)
  obtain ⟨started, _, rfl, -, ends⟩ := server_goes clock rfl ends
  have offers : EndsWithin H.fed (Quiet [])
      (fun (o : Offer) f => o.dispatch p₁ = Pdu.service.dispatch H.registry p₁ ∧
        f = ⟨[], false, [], t⟩) (ask (.offer node)) ⟨[], false, [], t⟩ := by
    refine .atRest (fed_still still) rfl ⟨_, _, .offered false⟩ fun o f hf => .done ?_
    obtain ⟨kind, registry, rfl⟩ := fed_offer hf
    exact ⟨by rw [Offer.dispatch, kind, registry]; rfl, rfl⟩
  obtain ⟨o, _, ⟨dispatches, rfl⟩, -, ends⟩ := server_goes offers rfl ends
  rw [dispatches] at ends
  have drained := dispatch_drained lawful (Pdu.dispatch_outward H.registry p₁) ends
  have alike := Service.dispatch_alike (s := Pdu.service) Pdu.table_blind H.registry arrived
  refine (drained.alike alike).yielding.mono (fun _ _ => trivial) ?_
  intro d t' post
  obtain ⟨⟨e', replies, ends⟩, run⟩ := post
  -- the reply is sent
  have still' := (admits.settles d t' run).1
  obtain ⟨_, _, ⟨rfl, rfl⟩, -, ends⟩ := server_goes (K := .done)
    (replying_ends still' started p₁ e') rfl
    (bind_pure (replying node options started p₁ e') ▸ ends)
  have option : d.option = p.option := by
    rw [← replies.same.option, replies.option, arrived.option]
  refine ⟨e', replies.same.symm.whole, ?_, ?_⟩
  · rw [Packet.hasMore, option]
    exact admits.last
  · simp only [List.flatten_singleton] at ends
    rw [← replies.same.frame]
    exact ends

/-- What a call ends in, dispatching its request ends in. -/
theorem call_dispatch {f : Except CallFailure ReplyPart × RpcClient → Task α}
    (channel : c.channel = ⟨.caller, copts⟩)
    {s : Remote τ} (ready : Ready node options t s)
    (ends : Ends (H.home node options) R (RpcClient.call.on c >>= f) s) :
    Ends H.machine
      (fun d t' => ∃ c' e, Same c'.packet d ∧ c' = { c with packet := c'.packet } ∧
        Ends (H.home node options) R (f (outcome d, c')) (idle node options e t'))
      (Pdu.service.dispatch H.registry p) t := by
  have noMore : c.packet.hasMore = false := by
    rw [Packet.hasMore, same.option]
    exact admits.last
  have sends : c.channel.writePacket c.packet = ask (.send .caller c.packet.frame) := by
    rw [Channel.writePacket, channel]
  rw [RpcClient.on_call noMore, sends, bind_assoc, bind_assoc] at ends
  -- a server that has yet to open the connection may do so now
  obtain ⟨e, ends⟩ : ∃ e, Ends (H.home node options) R _ (idle node options e t) := by
    cases ready with
    | idle e => exact ⟨e, ends⟩
    | fresh => exact ⟨.empty, ends.moved (opens H node options t)⟩
  replace ends := ends.answered (.far .sent)
  obtain ⟨n, limit, next, receives, ends⟩ :=
    awaits_receives (read_awaits (c := c) (by rw [channel])) ends
  have drained := receives_dispatch lawful same admits still ends
  refine drained.yielding.mono (fun _ _ => trivial) ?_
  intro d t' post
  obtain ⟨⟨e', whole, last, ends⟩, run⟩ := post
  obtain ⟨still', admitted⟩ := admits.settles d t' run
  obtain ⟨r, _, ⟨c', settled, same', client, rfl⟩, ends⟩ :=
    ends.through (home_ends (reply_read channel whole last admitted still' receives))
  refine ⟨c', e', same', client, ?_⟩
  rw [← settled]
  exact ends

/-- What a call and the rest of a program end in, dispatching its request ends in, where the rest is
told of by the reply. -/
theorem call_iff {P : Packet → τ → Prop} {f : Except CallFailure ReplyPart × RpcClient → Task α}
    (channel : c.channel = ⟨.caller, copts⟩) {s : Remote τ} (ready : Ready node options t s)
    (after : ∀ d t' c' e, H.machine.Yields (Pdu.service.dispatch H.registry p) t d t' →
      Same c'.packet d → c' = { c with packet := c'.packet } →
      (Ends (H.home node options) R (f (outcome d, c')) (idle node options e t') ↔ P d t')) :
    Ends (H.home node options) R (RpcClient.call.on c >>= f) s ↔
      Ends H.machine P (Pdu.service.dispatch H.registry p) t := by
  constructor
  · intro ends
    refine (call_dispatch lawful same admits still channel ready ends).yielding.mono
      (fun _ _ => trivial) ?_
    intro d t' post
    obtain ⟨⟨c', e, same', client, ends⟩, run⟩ := post
    exact (after d t' c' e run same' client).mp ends
  · intro dispatch
    have called := call_ready channel same admits.last admits.fits still dispatch.yielding
      (fun d t' post => (admits.settles d t' post.2).1)
      (fun d t' post => (admits.settles d t' post.2).2) ready
    refine .bind ((home_ends called).mono (fun _ _ => trivial) ?_)
    intro r s' post
    obtain ⟨result, c'⟩ := r
    obtain ⟨⟨d, e, t', ⟨here, run⟩, same', rfl, rfl⟩, client⟩ := post
    exact (after d t' c' e run same' client).mpr here

end

/-! ## Requests that ask alike -/

open Pdu (AsksAlike ShowsFailure)

/-- Limits that let a request through let one through that asks alike. -/
theorem Admits.alike {p q : Packet} {t : τ} (h : H.Admits options copts t p)
    (alike : AsksAlike p q) : H.Admits options copts t q where
  last := by
    rw [Packet.hasMore, ← alike.twin.option]
    exact h.last
  fits := by
    rw [← alike.twin.length]
    exact h.fits
  settles := by
    intro d t' run
    obtain ⟨d', run', twin⟩ := run.alike (Pdu.dispatch_twin H.registry alike.symm)
    rw [twin.length]
    exact h.settles d' t' run'

/-- Whatever a run comes to, it comes to with answers that are allowed. -/
theorem yields_outward (lawful : H.Lawful) {P : β → Prop} {p : Task β} {t t' : τ} {b : β}
    (run : H.machine.Yields p t b t') (outward : Outward P p) : P b := by
  induction run with
  | done => exact outward
  | silent _ _ ih => exact ih outward
  | ask answered _ ih => exact ih (outward.2 _ () (lawful _ _ _ _ answered))

/-- What a call and the rest of a program end in, dispatching any request that asks alike ends in,
where the rest only depends on what the reply says. -/
theorem call_told {R : α → Remote τ → Prop} {c : RpcClient} {p : Packet} {t : τ}
    {P : Packet × List Binary64 → τ → Prop}
    {f : Except CallFailure ReplyPart × RpcClient → Task α}
    (lawful : H.Lawful) (still : H.machine.Still t) (admits : H.Admits options copts t p)
    (shows : ShowsFailure H.machine H.registry p t) (alike : AsksAlike p c.packet)
    (channel : c.channel = ⟨.caller, copts⟩) {s : Remote τ} (ready : Ready node options t s)
    (after : ∀ d t' c' e, H.machine.Still t' → d.command = p.command → Same c'.packet d →
      c' = { c with packet := c'.packet } →
      (Ends (H.home node options) R (f (outcome d, c')) (idle node options e t') ↔
        P (Pdu.told d) t')) :
    Ends (H.home node options) R (RpcClient.call.on c >>= f) s ↔
      Ends H.machine (fun d t' => P (Pdu.told d) t') (Pdu.service.dispatch H.registry p) t := by
  rw [Pdu.dispatch_told_iff shows alike]
  have admits' := admits.alike alike
  refine call_iff lawful (Same.refl alike.symm.twin.whole) admits' still channel ready ?_
  intro d t' c' e run same client
  have answers := yields_outward lawful run (Pdu.dispatch_outward H.registry c.packet)
  exact after d t' c' e (admits'.settles d t' run).1 (answers.trans alike.twin.command.symm) same
    client

/-- What a call comes to, told by its result, by what the reply says and by the node afterwards, is
what dispatching any request that asks alike comes to. -/
theorem call_says {c : RpcClient} {p : Packet} {t : τ} (lawful : H.Lawful)
    (still : H.machine.Still t) (admits : H.Admits options copts t p)
    (shows : ShowsFailure H.machine H.registry p t) (alike : AsksAlike p c.packet)
    (channel : c.channel = ⟨.caller, copts⟩) {s : Remote τ} (ready : Ready node options t s)
    (Q : Except CallFailure ReplyPart → Packet × List Binary64 → τ → Prop) :
    Ends (H.home node options) (fun r s => Q r.1 (Pdu.told r.2.packet) s.host)
        (RpcClient.call.on c) s ↔
      Ends H.machine (fun d t' => Q (outcome (Pdu.told d).1) (Pdu.told d) t')
        (Pdu.service.dispatch H.registry p) t := by
  rw [← bind_pure (RpcClient.call.on c)]
  refine call_told (P := fun x t' => Q (outcome x.1) x t') lawful still admits shows alike channel
    ready ?_
  intro d t' c' e _ _ same _
  refine EndsWithin.done_iff.trans ?_
  rw [Pdu.told_same same]
  exact Iff.rfl

end Host

end DeviceRpc
