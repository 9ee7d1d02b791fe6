import DeviceRpc.Proofs.Call.Lookup

/-!
# One hop

A relay, its client, and the unit on another node that it stands for. The relay's surroundings are a
machine of their own (`Leg.machine`): the cell with the client and its lock, the relay's monitor, and
the connection to the node behind it, which is a host and may be anything. An inquiry to the relay is
an inquiry to the unit (`Leg.forwards`): the relay connects and looks the name up where that is still
to be done, sends the inquiry on, and answers what it is answered.

**In step.** Between two inquiries the client and its connection are in step (`Leg.InStep`): either
there is none yet, or the server waits on it, and an index that the client knows is the one the name
is registered under.
-/

namespace DeviceRpc

open Packet (Same)

/-- A relay as it is set up. -/
structure Leg where
  /-- Where the client is. -/
  cell : CellId
  monitor : MonitorId
  endpoint : Endpoint
  options : LinkOptions
  /-- The unit's name on its own node. -/
  name : String
  /-- The unit's node, and how it serves. -/
  node : NodeId
  served : LinkOptions
  /-- The objects of the relay's own node. -/
  registry : Registry Object

/-- The surroundings of a relay. -/
structure Hop (τ : Type) where
  /-- The client in the cell. -/
  kept : PduClient
  locked : Bool := false
  healthy : Bool := false
  far : Remote τ

/-- The client with another envelope. -/
def PduClient.withEnvelope (p : Packet) (c : PduClient) : PduClient :=
  { c with rpc := c.rpc.map ({ · with packet := p }) }

/-- Putting an envelope down. -/
def Act.IsNote : Act → Prop
  | keepEnvelope _ _ => True
  | _ => False

namespace Leg

variable {τ : Type}

/-- How the surroundings of a relay answer. -/
inductive Answers (leg : Leg) (H : Host τ) : Hop τ → (a : Act) → a.Reply → Hop τ → Prop where
  | acquired {s : Hop τ} (free : s.locked = false) :
      Answers leg H s (.acquire leg.cell) () { s with locked := true }
  | released {s : Hop τ} : Answers leg H s (.release leg.cell) () { s with locked := false }
  | counted {s : Hop τ} : Answers leg H s (.countReconnect leg.cell) () s
  | taken {s : Hop τ} : Answers leg H s (.pduClient leg.cell) s.kept s
  | kept {s : Hop τ} {c : PduClient} :
      Answers leg H s (.keepPduClient leg.cell c) () { s with kept := c }
  | noted {s : Hop τ} {cell : CellId} {p : Packet} :
      Answers leg H s (.keepEnvelope cell p) () { s with kept := s.kept.withEnvelope p }
  | shown {s : Hop τ} : Answers leg H s (.isHealthy leg.monitor) s.healthy s
  | marked {s : Hop τ} {healthy : Bool} :
      Answers leg H s (.setHealth leg.monitor healthy) () { s with healthy }
  | far {s : Hop τ} {a : Act} {r : a.Reply} {far' : Remote τ} (other : ¬ a.IsNote)
      (h : (H.remote leg.node leg.served).answers s.far a r far') :
      Answers leg H s a r { s with far := far' }

/-- The surroundings of a relay to a unit of a host. -/
def machine (leg : Leg) (H : Host τ) : Machine (Hop τ) where
  silent s s' := ∃ far', (H.remote leg.node leg.served).silent s.far far' ∧
    s' = { s with far := far' }
  answers := Answers leg H

end Leg

/-- The node of a relay. -/
def Host.behind {τ : Type} (H : Host τ) (leg : Leg) : Host (Hop τ) where
  machine := leg.machine H
  registry := leg.registry
  clock_live s := ⟨0, s, .far id (.clock 0)⟩
  clock_same h := by
    cases h with
    | far _ h => rw [Host.remote_clock h]
  apart s a r s' h serving := by
    cases h with
    | acquired | released | counted | taken | kept | noted | shown | marked => exact serving
    | far _ h => exact Host.remote_apart h serving

namespace Leg

variable {τ : Type} {leg : Leg} {H : Host τ} {b : Bool}

/-- While a task has the lock, the connection is there with a client that may be any. -/
def Around (b : Bool) (far : Remote τ) (s : Hop τ) : Prop := ∃ c, s = ⟨c, true, b, far⟩

theorem simulates (leg : Leg) (H : Host τ) (b : Bool) :
    (H.remote leg.node leg.served).Simulates (leg.machine H) (Around b) where
  canMove := by
    intro far far' _ around moved
    obtain ⟨c, rfl⟩ := around
    exact ⟨_, far', moved, rfl⟩
  canAnswer := by
    intro far a r far' _ around hr
    obtain ⟨c, rfl⟩ := around
    cases hr with
    | noted => exact ⟨(), _, .noted⟩
    | clock time => exact ⟨time, _, .far id (.clock time)⟩
    | dialed => exact ⟨_, _, .far id .dialed⟩
    | sent => exact ⟨_, _, .far id .sent⟩
    | arrived split short => exact ⟨_, _, .far id (.arrived split short)⟩
  silent := by
    intro far _ s' around step
    obtain ⟨c, rfl⟩ := around
    obtain ⟨far', moved, rfl⟩ := step
    exact ⟨far', moved, c, rfl⟩
  answers := by
    intro far _ a r s' around asked hr
    obtain ⟨c, rfl⟩ := around
    obtain ⟨u, x, u', known⟩ := asked
    cases hr with
    | acquired | released | counted | taken | kept | shown | marked => cases known
    | noted => exact ⟨far, .noted, _, rfl⟩
    | far _ h => exact ⟨_, h, c, rfl⟩

section

variable {α β : Type} {S : β → Hop τ → Prop} {far : Remote τ} {c : PduClient} {t : τ}

/-- What is between the client and the node behind it leaves the cell to the task that has the
lock. -/
theorem around_ends {p : Task α} {Q : α → Remote τ → Prop}
    (h : Ends (H.remote leg.node leg.served) Q p far) {f : α → Task β}
    (after : ∀ a far' c', Q a far' → Ends (leg.machine H) S (f a) ⟨c', true, b, far'⟩) :
    Ends (leg.machine H) S (p >>= f) ⟨c, true, b, far⟩ := by
  refine h.simulate (leg.simulates H b) (fun _ _ _ => trivial) ⟨c, rfl⟩ ?_
  intro a far' _ here around
  obtain ⟨c', rfl⟩ := around
  exact after a far' c' here

theorem rests {s : Hop τ} (still : (H.remote leg.node leg.served).Still s.far) :
    (leg.machine H).Still s := by
  intro s' step
  obtain ⟨far', moved, -⟩ := step
  exact still far' moved

end

/-! ## In step -/

/-- The client of a relay with this connection and this index. -/
def client (leg : Leg) (rpc : Option RpcClient) (index : UInt16) : PduClient where
  endpoint := leg.endpoint
  options := leg.options
  name := leg.name
  rpc := rpc
  index := index
  home := some leg.cell

/-- A connection that the client may use. -/
def Connected (leg : Leg) (rpc : RpcClient) : Prop := rpc.channel = ⟨.caller, leg.options⟩

/-- The client and its connection, between two exchanges. -/
inductive InStep (leg : Leg) (i : UInt16) (t : τ) : Option RpcClient → UInt16 → Remote τ → Prop where
  | apart : InStep leg i t none 0 ⟨none, t⟩
  | linked {rpc : RpcClient} {index : UInt16} {e : Packet} (connected : leg.Connected rpc)
      (known : index = 0 ∨ index = i) :
      InStep leg i t (some rpc) index (Host.idle leg.node leg.served e t)

theorem inStep_still {t : τ} {i : UInt16} {rpc : Option RpcClient} {index : UInt16} {far : Remote τ}
    {c : PduClient} {locked healthy : Bool} (inStep : leg.InStep i t rpc index far)
    (still : H.machine.Still t) : (leg.machine H).Still ⟨c, locked, healthy, far⟩ := by
  cases inStep with
  | apart => exact rests (Host.apart_still still)
  | linked => exact rests (Host.remote_still still [])

/-- Where client and connection are in step, an act is only a matter of its answers. -/
theorem request {β : Type} {S : β → Hop τ → Prop} {a : Act} {f : a.Reply → Task β} {c : PduClient}
    {locked healthy : Bool} {t : τ} {i : UInt16} {rpc : Option RpcClient} {index : UInt16}
    {far : Remote τ} (inStep : leg.InStep i t rpc index far) (still : H.machine.Still t)
    (live : ∃ r s', Answers leg H ⟨c, locked, healthy, far⟩ a r s')
    (go : ∀ r s', Answers leg H ⟨c, locked, healthy, far⟩ a r s' →
      Ends (leg.machine H) S (f r) s') :
    Ends (leg.machine H) S (ask a >>= f) ⟨c, locked, healthy, far⟩ :=
  .request (inStep_still inStep still) trivial live go

section

variable {α β : Type} {S : β → Hop τ → Prop} {far : Remote τ} {c : PduClient} {t : τ} {i : UInt16}
  {rpc : Option RpcClient} {index : UInt16}

/-- A client that is in step has a connection, or gets one and puts itself down with it. -/
theorem connected_ends (inStep : leg.InStep i t rpc index far) (still : H.machine.Still t)
    {f : Except CallFailure RpcClient × PduClient → Task β}
    (after : ∀ rpc far c, leg.Connected rpc → Host.Ready leg.node leg.served t far →
      Ends (leg.machine H) S (f (.ok rpc, leg.client (some rpc) index)) ⟨c, true, b, far⟩) :
    Ends (leg.machine H) S (PduClient.connected.on (leg.client rpc index) >>= f)
      ⟨c, true, b, far⟩ := by
  cases inStep with
  | linked connected known =>
    rw [PduClient.on_connected_some rfl]
    exact after _ _ _ connected (.idle _)
  | apart =>
    rw [PduClient.on_connected_none rfl, bind_assoc]
    refine around_ends (Host.connects still leg.endpoint leg.options (some leg.cell)) ?_
    intro _ _ c' post
    obtain ⟨rfl, rfl⟩ := post
    let rpc : RpcClient := ⟨leg.endpoint, leg.options, ⟨.caller, leg.options⟩, .empty, some leg.cell⟩
    simp only
    rw [PduClient.on_keep rfl, bind_assoc, bind_assoc]
    -- the server may open the connection before the client puts itself down, or after
    have putDown {far : Remote τ} (ready : Host.Ready leg.node leg.served t far) {r : Unit}
        {s : Hop τ} (hr : Answers leg H ⟨c', true, b, far⟩
          (.keepPduClient leg.cell (leg.client (some rpc) 0)) r s) :
        Ends (leg.machine H) S (f (.ok rpc, leg.client (some rpc) 0)) s := by
      cases hr with
      | kept => exact after _ _ _ rfl ready
      | far _ h => cases h
    refine .ask trivial (.inr ⟨_, _, .kept⟩) ?_ fun r s hr => putDown .fresh hr
    intro s step
    obtain ⟨far, moved, rfl⟩ := step
    rw [Host.fresh_moves still moved]
    exact .atRest (rests (Host.remote_still still [])) trivial ⟨_, _, .kept⟩ fun r s hr =>
      putDown (.idle .empty) hr

/-- What a client does on its connection is over when the server waits again. -/
theorem onConnection_ends {op : Calling RpcClient α} {Q : Except CallFailure α → RpcClient → τ → Prop}
    (inStep : leg.InStep i t rpc index far) (still : H.machine.Still t)
    (ends : ∀ rpc far, leg.Connected rpc → Host.Ready leg.node leg.served t far →
      Ends (H.remote leg.node leg.served)
        (fun r s => ∃ e t', s = Host.idle leg.node leg.served e t' ∧ leg.Connected r.2 ∧ Q r.1 r.2 t')
        (op.on rpc) far)
    {f : Except CallFailure α × PduClient → Task β}
    (after : ∀ r rpc e t' c, leg.Connected rpc → Q r rpc t' →
      Ends (leg.machine H) S (f (r, leg.client (some rpc) index))
        ⟨c, true, b, Host.idle leg.node leg.served e t'⟩) :
    Ends (leg.machine H) S ((PduClient.onConnection op).on (leg.client rpc index) >>= f)
      ⟨c, true, b, far⟩ := by
  rw [PduClient.on_onConnection, bind_assoc]
  refine connected_ends inStep still fun rpc far c connected ready => ?_
  simp only
  rw [bind_assoc]
  refine around_ends (ends rpc far connected ready) ?_
  intro r _ c' post
  obtain ⟨r, rpc'⟩ := r
  obtain ⟨e, t', rfl, connected', here⟩ := post
  exact after r rpc' e t' c' connected' here

end

/-! ## Looking the unit up -/

/-- The unit's name is registered under this index, and can be written for the unit's node. -/
structure Finds (leg : Leg) (H : Host τ) (i : UInt16) : Prop where
  registered : H.registry.index? leg.name = some i
  zeroFree : ZeroFree leg.name
  carries : Packet.Carries leg.served.maxPayload leg.name

section

variable {β : Type} {S : β → Hop τ → Prop} {far : Remote τ} {c : PduClient} {t : τ} {i : UInt16}

/-- A lookup of the unit's name gives its index. -/
theorem lookup_ends (finds : leg.Finds H i) (still : H.machine.Still t) {rpc : RpcClient}
    (connected : leg.Connected rpc) (ready : Host.Ready leg.node leg.served t far) :
    Ends (H.remote leg.node leg.served)
      (fun r s => ∃ e t', s = Host.idle leg.node leg.served e t' ∧ leg.Connected r.2 ∧
        r.1 = .ok i ∧ t' = t)
      ((RpcClient.indexByName Protocol.pdu Pdu.getIndexByName leg.name).on rpc) far := by
  refine (Host.lookup_ends connected still ready finds.zeroFree finds.carries).mono
    (fun _ _ => trivial) ?_
  intro r s post
  obtain ⟨told, kept, e, rfl⟩ := post
  refine ⟨e, t, rfl, kept.trans connected, ?_, rfl⟩
  rw [told, Registry.verdict, finds.registered]

/-- A client that is in step knows the unit's index, or looks it up and puts itself down with it. -/
theorem resolve_ends (finds : leg.Finds H i) (still : H.machine.Still t) {rpc : Option RpcClient}
    {index : UInt16} (inStep : leg.InStep i t rpc index far)
    {f : Except CallFailure UInt16 × PduClient → Task β}
    (after : ∀ rpc far c, leg.InStep i t rpc i far →
      Ends (leg.machine H) S (f (.ok i, leg.client rpc i)) ⟨c, true, b, far⟩) :
    Ends (leg.machine H) S (PduClient.resolve.on (leg.client rpc index) >>= f)
      ⟨c, true, b, far⟩ := by
  unfold PduClient.resolve
  rw [Calling.on_bind, Calling.on_get, Prog.done_bind, Calling.andThen]
  by_cases unknown : index = 0
  · rw [if_pos (show (leg.client rpc index).index = 0 from unknown), Calling.on_bind, bind_assoc]
    refine onConnection_ends (Q := fun r _ t' => r = .ok i ∧ t' = t) inStep still
      (fun rpc far connected ready => lookup_ends finds still connected ready) ?_
    intro _ rpc e t' c connected post
    obtain ⟨rfl, rfl⟩ := post
    rw [Calling.andThen, Calling.on_bind, Calling.on_modify, Prog.done_bind, Calling.andThen,
      Calling.on_bind, PduClient.on_keep rfl, bind_assoc, bind_assoc]
    have linked : leg.InStep i t' (some rpc) i (Host.idle leg.node leg.served e t') :=
      .linked connected (.inr rfl)
    refine request linked still ⟨_, _, .kept⟩ fun r s' hr => ?_
    cases hr with
    | kept => exact after _ _ _ linked
    | far _ h => cases h
  · rw [if_neg (show ¬ (leg.client rpc index).index = 0 from unknown)]
    cases inStep with
    | apart => exact absurd rfl unknown
    | linked connected known =>
      obtain rfl := known.resolve_left unknown
      exact after _ _ _ (.linked connected (.inr rfl))

end

/-! ## Passing an inquiry on -/

/-- What a client reads from the reply to an inquiry is what the object answered. -/
theorem outcome_reply {q : Inquiry} {maxPayload : Nat} {p : Packet} (plain : q.Plain p)
    {a : Except ErrorCode q.Answer} (sound : q.Sound maxPayload a) :
    (Host.outcome (q.reply p a)).map (fun _ => q.read (q.reply p a)) = a.mapError .remote ∧
      (q.reply p a).length.toNat ≤ maxPayload := by
  cases a with
  | error code =>
    have numbered : ErrorCode.ofNumber? (q.reply p (.error code)).errorCode = some code := sound
    unfold Host.outcome
    rw [numbered]
    exact ⟨rfl, Nat.zero_le _⟩
  | ok a =>
    obtain ⟨success, read, fits⟩ := Inquiry.read_reply plain sound
    have none : ErrorCode.ofNumber? (q.reply p (.ok a)).errorCode = none := by
      rw [success]
      rfl
    unfold Host.outcome
    rw [none]
    exact ⟨congrArg Except.ok read, fits⟩

section

variable {β : Type} {S : β → Hop τ → Prop} {far : Remote τ} {c : PduClient} {t : τ} {i : UInt16}
  {o : Object} {q : Inquiry} {Q : Except ErrorCode q.Answer → τ → Prop}
  (still : H.machine.Still t) (object : H.registry.object? i = some o)
  (admits : q.Admits leg.served.maxPayload) (answers : Ends H.machine Q (q.ask o) t)
  (rests : ∀ a t', Q a t' → H.machine.Still t')
  (sound : ∀ a t', Q a t' → q.Sound leg.options.maxPayload a)

include still object admits answers rests sound

/-- An inquiry on the connection is answered by the unit. -/
theorem inquiry_ends {rpc : RpcClient} (connected : leg.Connected rpc)
    (ready : Host.Ready leg.node leg.served t far) :
    Ends (H.remote leg.node leg.served)
      (fun r s => ∃ e t', s = Host.idle leg.node leg.served e t' ∧ leg.Connected r.2 ∧
        ∃ a, Q a t' ∧ r.1.map (fun _ => q.read r.2.packet) = a.mapError .remote)
      (Calling.on (do
        RpcClient.prepare q.protocol q.command i
        RpcClient.modifyPacket ({ · with channel := q.channel })
        RpcClient.fill q.fill
        discard RpcClient.call) rpc) far := by
  obtain ⟨p, written, asked, plain, like, whole, fits⟩ := Inquiry.fill_asked admits
    (p := { rpc.packet.prepare q.protocol q.command i with channel := q.channel }) rfl rfl rfl
  have last : p.hasMore = false := Packet.hasMore_of_option like.option
  have protocol : p.protocol = Pdu.service.protocol ∨ p.protocol = Protocol.system := by
    rw [like.protocol]
    cases q <;> first | exact .inl rfl | exact .inr rfl
  have dispatch : Ends H.machine (fun d t' => ∃ a, Q a t' ∧ d = q.reply p a)
      (Pdu.service.dispatch H.registry p) t := by
    rw [Inquiry.dispatch_asked asked protocol (by rw [like.index]; exact object)]
    exact .bind (answers.mono (fun _ _ => trivial) fun a t' here => .done ⟨a, here, rfl⟩)
  have called := Host.call_ready (c := { rpc with packet := p }) connected (Packet.Same.refl whole)
    last fits still dispatch (by rintro _ t' ⟨a, here, -⟩; exact rests a t' here)
    (by rintro _ t' ⟨a, here, rfl⟩; exact (outcome_reply plain (sound a t' here)).2) ready
  rw [RpcClient.on_request written]
  refine .bind (called.mono (fun _ _ => trivial) ?_)
  intro r s post
  obtain ⟨_, rpc'⟩ := r
  obtain ⟨⟨_, e, t', ⟨a, here, rfl⟩, same, rfl, rfl⟩, client⟩ := post
  refine .done ⟨e, t', rfl, ?_, a, here, ?_⟩
  · exact (congrArg RpcClient.channel client).trans connected
  · rw [← (outcome_reply plain (sound a t' here)).1, q.read_same same]
    cases Host.outcome (q.reply p a) <;> rfl

/-- The client that makes the inquiry gets the unit's answer, and is in step again. -/
theorem call_ends (finds : leg.Finds H i) {rpc : Option RpcClient} {index : UInt16}
    (inStep : leg.InStep i t rpc index far)
    {f : Except CallFailure q.Answer × PduClient → Task β}
    (after : ∀ a rpc far t' c, Q a t' → leg.InStep i t' rpc i far →
      Ends (leg.machine H) S (f (a.mapError .remote, leg.client rpc i)) ⟨c, true, b, far⟩) :
    Ends (leg.machine H) S (q.call.on (leg.client rpc index) >>= f) ⟨c, true, b, far⟩ := by
  rw [Inquiry.on_call, PduClient.on_request, bind_assoc, bind_assoc, PduClient.exchange,
    Calling.on_bind, bind_assoc]
  refine resolve_ends finds still inStep fun rpc far c inStep => ?_
  rw [Calling.andThen, Calling.on_bind, bind_assoc]
  refine onConnection_ends
    (Q := fun r rpc t' => ∃ a, Q a t' ∧ r.map (fun _ => q.read rpc.packet) = a.mapError .remote)
    inStep still (fun rpc far connected ready =>
      inquiry_ends still object admits answers rests sound connected ready) ?_
  intro r rpc e t' c connected post
  obtain ⟨a, here, told⟩ := post
  have linked : leg.InStep i t' (some rpc) i (Host.idle leg.node leg.served e t') :=
    .linked connected (.inr rfl)
  cases r with
  | error failure =>
    cases a with
    | ok a => cases told
    | error code =>
      cases told
      exact after _ _ _ _ _ here linked
  | ok =>
    cases a with
    | error code => cases told
    | ok a =>
      cases told
      rw [Calling.andThen, Calling.on_bind, PduClient.on_connected_some rfl]
      exact after _ _ _ _ _ here linked

/-- Between two operations, the client in the cell and its connection are in step. -/
def Rests (leg : Leg) (i : UInt16) (b : Bool) (t : τ) (s : Hop τ) : Prop :=
  ∃ rpc index far, leg.InStep i t rpc index far ∧ s = ⟨leg.client rpc index, false, b, far⟩

/-- A task that has the lock makes the inquiry once, and its answer is what comes of it. -/
theorem attempt_ends (finds : leg.Finds H i) {rpc : Option RpcClient} {index : UInt16}
    (inStep : leg.InStep i t rpc index far) :
    Ends (leg.machine H)
      (fun r s => ∃ a t' rpc far, Q a t' ∧ r = a.mapError .remote ∧ leg.InStep i t' rpc i far ∧
        s = ⟨leg.client rpc i, true, b, far⟩)
      ((PduClient.transport leg.cell).attempt q.call) ⟨leg.client rpc index, true, b, far⟩ := by
  unfold Transport.attempt Transport.under
  rw [bind_assoc]
  refine request inStep still ⟨_, _, .taken⟩ fun r s hr => ?_
  cases hr with
  | far _ h => cases h
  | taken =>
    rw [bind_assoc]
    refine call_ends still object admits answers rests sound finds inStep ?_
    intro a rpc far t' c here inStep
    have still' := rests a t' here
    simp only
    rw [bind_assoc]
    refine request inStep still' ⟨_, _, .kept⟩ fun r s hr => ?_
    cases hr with
    | far _ h => cases h
    | kept =>
      -- a remote failure is not transient
      cases a <;> exact .done ⟨_, t', rpc, far, here, rfl, inStep, rfl⟩

/-- The relay passes the inquiry on, and is at rest again. -/
theorem forward_ends (finds : leg.Finds H i) {s : Hop τ} (atRest : leg.Rests i b t s) :
    Ends (leg.machine H) (fun a s => ∃ t', Q a t' ∧ leg.Rests i b t' s)
      (Driver.forward leg.cell q.call) s := by
  obtain ⟨rpc, index, far, inStep, rfl⟩ := atRest
  unfold Driver.forward Transport.run
  rw [bind_assoc]
  refine request inStep still ⟨_, _, .acquired rfl⟩ fun r s hr => ?_
  cases hr with
  | far _ h => cases h
  | acquired =>
    rw [bind_assoc]
    refine .bind ((attempt_ends still object admits answers rests sound finds inStep).mono
      (fun _ _ => trivial) ?_)
    intro _ _ post
    obtain ⟨a, t', rpc, far, here, rfl, inStep, rfl⟩ := post
    rw [bind_assoc]
    refine request inStep (rests a t' here) ⟨_, _, .released⟩ fun r s hr => ?_
    cases hr with
    | far _ h => cases h
    | released =>
      have same : (a.mapError CallFailure.remote).mapError CallFailure.code = a := by
        cases a <;> rfl
      refine .done ⟨t', ?_, rpc, i, far, inStep, rfl⟩
      rw [same]
      exact here

/-- An inquiry to the relay is answered by the unit that it stands for. -/
theorem ask_ends (finds : leg.Finds H i) {s : Hop τ} (atRest : leg.Rests i b t s) :
    Ends (leg.machine H) (fun a s => ∃ b t', Q a t' ∧ leg.Rests i b t' s)
      (q.ask ⟨.relay leg.cell, leg.monitor⟩) s := by
  have forwards := forward_ends still object admits answers rests sound finds atRest
  cases q with
  | inspect =>
    -- the outcome of the only probe is what the monitor then shows
    show Ends (leg.machine H) _ (Driver.forward leg.cell PduClient.inspect >>= _) s
    refine .bind (forwards.mono (fun _ _ => trivial) ?_)
    intro a _ post
    obtain ⟨t', here, rpc, index, far, inStep, rfl⟩ := post
    cases a with
    | ok =>
      refine request inStep (rests _ t' here) ⟨_, _, .marked⟩ fun r s hr => ?_
      cases hr with
      | far _ h => cases h
      | marked => exact .done ⟨true, t', here, rpc, index, far, inStep, rfl⟩
    | error code =>
      refine request inStep (rests _ t' here) ⟨_, _, .marked⟩ fun r s hr => ?_
      cases hr with
      | far _ h => cases h
      | marked => exact .done ⟨false, t', here, rpc, index, far, inStep, rfl⟩
  | _ => exact forwards.mono (fun _ ht => ht) fun a s h => ⟨b, h⟩

end

end Leg

end DeviceRpc
