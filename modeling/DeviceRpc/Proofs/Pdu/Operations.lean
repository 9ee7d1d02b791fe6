import DeviceRpc.Bench.Clients
import DeviceRpc.Proofs.Dispatch.Failures

/-!
# The operations of a client, in place

Each operation of a unit's client is one request, and before it a lookup if the index is not known.
Carried out in place, on a node, there is no client to it: no connection, no envelope with things
left over from earlier calls, no index that was kept (`Pdu.Command.inPlace`). An operation over a
reliable connection comes to just that (`PduClient.perform_iff`), so two clients of a unit that
differ in their envelopes, and in whether they know the index, get the same results and leave the
node the same (`PduClient.operations_agree`).

Two things make it so. Each request overwrites what its command looks at, whatever envelope it is
written into (`Order.Overwrites`), and what is read from the reply is what the command wrote
(`Command.tell_told`). And an index that is known is the one that a lookup would give.
-/

namespace DeviceRpc

open Packet (Same Twin Named)

namespace Pdu

/-! ## Orders -/

/-- A request that a client of a unit makes. -/
structure Order where
  protocol : UInt16 := Protocol.pdu
  command : UInt16
  channel : UInt16 := 0
  /-- What else it carries. -/
  change : Packet → Except Failure Packet := .ok

namespace Order

/-- The order for the unit with an index, written into an envelope. -/
def write (o : Order) (index : UInt16) (p : Packet) : Except Failure Packet :=
  o.change { p.prepare o.protocol o.command index with channel := o.channel }

/-- Sends the order on a connection and reads the reply. -/
def send (o : Order) (index : UInt16) : Calling RpcClient Unit := do
  RpcClient.prepare o.protocol o.command index
  RpcClient.modifyPacket ({ · with channel := o.channel })
  RpcClient.fill o.change
  discard RpcClient.call

/-- The order carried out in place: what the reply says, or why there is none. -/
def inPlace (registry : Registry Object) (o : Order) (index : UInt16) :
    Task (Except CallFailure (Packet × List Binary64)) :=
  match o.write index .empty with
  | .error e => .done (.error (.link (.invalidArgument e.message)))
  | .ok p => service.dispatch registry p >>= fun d =>
      .done ((Host.outcome d).map fun _ => told d)

/-- Two results of writing an order that ask the same. -/
inductive Written (o : Order) : Except Failure Packet → Except Failure Packet → Prop where
  | ok {p q : Packet} (alike : AsksAlike p q) (command : p.command = o.command) :
      Written o (.ok p) (.ok q)
  | error (e : Failure) : Written o (.error e) (.error e)

/-- Whatever envelope it is written into, the order asks the same. -/
def Overwrites (o : Order) (index : UInt16) : Prop :=
  ∀ p q : Packet, o.Written (o.write index p) (o.write index q)

end Order

/-! ## Operations -/

namespace Command

/-- The request of an operation. -/
def order : Command → Order
  | .turnOn outlet => { command := Pdu.turnOn, channel := outlet }
  | .turnOff outlet => { command := Pdu.turnOff, channel := outlet }
  | .voltage outlet => { command := getVoltage, channel := outlet }
  | .current outlet => { command := getCurrent, channel := outlet }
  | .voltageCurrent outlet => { command := getVoltageCurrent, channel := outlet }
  | .status limit => { command := Pdu.status, change := fun p => .ok (p.setLimit limit) }
  | .channel name => { command := getChannelByName, change := (·.setName name) }
  | .inspect => { protocol := Protocol.system, command := Protocol.inspect }
  | .register seconds =>
    { protocol := Protocol.system, command := Protocol.register
      change := fun p => .ok (p.setF64 .first seconds) }

/-- The answer of an operation, as its client reads it from the reply. -/
def read : Command → Packet → PduAnswer
  | .voltage _, p | .current _, p => .reading (p.f64 .first)
  | .voltageCurrent _, p => .readings (p.f64 .first) (p.f64 .second)
  | .status _, p => .bytes p.payload
  | .channel _, p => .channel p.channel
  | .turnOn _, _ | .turnOff _, _ | .inspect, _ | .register _, _ => .done

/-- The same answer, from what the reply says. -/
def tell : Command → Packet × List Binary64 → PduAnswer
  | .voltage _, said | .current _, said => .reading (said.2.getD 0 .zero)
  | .voltageCurrent _, said => .readings (said.2.getD 0 .zero) (said.2.getD 1 .zero)
  | .status _, said => .bytes said.1.payload
  | .channel _, said => .channel said.1.channel
  | .turnOn _, _ | .turnOff _, _ | .inspect, _ | .register _, _ => .done

/-- The operation carried out in place, on the unit with this name. -/
def inPlace (registry : Registry Object) (name : String) (cmd : Command) :
    Task (Except CallFailure PduAnswer) :=
  match registry.lookup name with
  | .error e => .done (.error e)
  | .ok index => cmd.order.inPlace registry index >>= fun x => .done (x.map cmd.tell)

/-- What a client reads from a reply to its command is what the reply says. -/
theorem tell_told (cmd : Command) {d : Packet} (command : d.command = cmd.order.command)
    (success : d.errorCode = 0) : cmd.tell (told d) = cmd.read d := by
  have said : told d = (d.plain, readings d) := by rw [told, if_pos success]
  rw [said]
  cases cmd with
  | voltage => rw [tell, readings_one (.inl command)]; rfl
  | current => rw [tell, readings_one (.inr command)]; rfl
  | voltageCurrent => rw [tell, readings_two command]; rfl
  | status =>
    show PduAnswer.bytes d.plain.payload = .bytes d.payload
    rw [Packet.payload_plain]
  | _ => rfl

/-- An operation is its request, and reading the answer. -/
theorem perform_eq (cmd : Command) :
    PduErrand.perform cmd = cmd.read <$> PduClient.request cmd.order.protocol cmd.order.command
      cmd.order.channel cmd.order.change := by
  cases cmd with
  | turnOn | turnOff | inspect | register =>
    simp only [PduErrand.perform, PduClient.switch, PduClient.inspect, PduClient.register, discard,
      Functor.discard, map_const, Function.comp_apply, map_eq_pure_bind, bind_assoc, pure_bind,
      if_true, Bool.false_eq_true, if_false]
    rfl
  | voltage | current | voltageCurrent | status | channel =>
    simp only [PduErrand.perform, PduClient.voltage, PduClient.current, PduClient.voltageCurrent,
      PduClient.status, PduClient.channelByName, map_eq_pure_bind, bind_assoc, pure_bind]
    rfl

/-- Every operation writes all of what its command looks at. -/
theorem order_overwrites (cmd : Command) {index : UInt16} (found : index ≠ 0) :
    cmd.order.Overwrites index := by
  intro p q
  have twin := Packet.prepare_twin p q cmd.order.protocol cmd.order.command index cmd.order.channel
  cases cmd with
  | turnOn => exact .ok (.of_twin (n := Pdu.turnOn) twin found rfl (by decide)) rfl
  | turnOff => exact .ok (.of_twin (n := Pdu.turnOff) twin found rfl (by decide)) rfl
  | voltage => exact .ok (.of_twin (n := getVoltage) twin found rfl (by decide)) rfl
  | current => exact .ok (.of_twin (n := getCurrent) twin found rfl (by decide)) rfl
  | voltageCurrent => exact .ok (.of_twin (n := getVoltageCurrent) twin found rfl (by decide)) rfl
  | inspect => exact .ok (.of_twin (n := Protocol.inspect) twin found rfl (by decide)) rfl
  | status limit =>
    refine .ok ⟨twin, fun named => ?_, fun _ => ?_, fun register => ?_⟩ rfl
    · exact absurd named (unnamed (n := Pdu.status) found rfl (by decide))
    · rw [Packet.limit_setLimit, Packet.limit_setLimit]
    · exact absurd register (show Pdu.status ≠ Protocol.register by decide)
  | register seconds =>
    refine .ok ⟨twin, fun named => ?_, fun status => ?_, fun _ => ?_⟩ rfl
    · exact absurd named (unnamed (n := Protocol.register) found rfl (by decide))
    · exact absurd status (show Protocol.register ≠ Pdu.status by decide)
    · rw [Packet.f64_setF64, Packet.f64_setF64]
  | channel name =>
    have takes {p : Packet} (like : p.command = getChannelByName) :
        p.command ≠ Pdu.status ∧ p.command ≠ Protocol.register := by
      rw [like]
      decide
    have named := Packet.setName_twin twin name
    show Order.Written _ (Packet.setName name _) (Packet.setName name _)
    generalize written : Packet.setName name _ = x at named ⊢
    generalize Packet.setName name _ = y at named ⊢
    cases named with
    | error e => exact .error e
    | ok twin same =>
      have command := (Packet.setName_like written).1.command
      refine .ok ⟨twin, fun _ => same, fun status => ?_, fun register => ?_⟩ command
      · exact absurd status (takes command).1
      · exact absurd register (takes command).2

end Command

/-! ## On a connection -/

namespace Order

open Host (Ready)

variable {τ β : Type} {H : Host τ} {node : NodeId} {options copts : LinkOptions} {o : Order}
  {index : UInt16} {t : τ}

/-- The limits let the order and whatever it is answered with through. -/
def Admitted (H : Host τ) (options copts : LinkOptions) (t : τ) (o : Order) (index : UInt16) :
    Prop :=
  ∀ p, o.write index .empty = .ok p → H.Admits options copts t p

/-- Sending the order on a connection came to what carrying it out in place came to. -/
structure Came (o : Order) (c : RpcClient) (x : Except CallFailure (Packet × List Binary64))
    (r : Except CallFailure Unit × RpcClient) : Prop where
  result : r.1 = x.map fun _ => ()
  client : r.2 = { c with packet := r.2.packet }
  reply : ∀ said, x = .ok said →
    told r.2.packet = said ∧ r.2.packet.command = o.command ∧ r.2.packet.errorCode = 0

/-- What sending an order and the rest of a program end in, carrying it out in place ends in, where
the rest only depends on what that comes to. -/
theorem send_iff {R : β → Remote τ → Prop} {c : RpcClient}
    {P : Except CallFailure (Packet × List Binary64) → τ → Prop}
    {f : Except CallFailure Unit × RpcClient → Task β} {s : Remote τ}
    (lawful : H.Lawful) (still : H.machine.Still t) (frank : H.Frank t)
    (overwrites : o.Overwrites index) (admitted : o.Admitted H options copts t index)
    (channel : c.channel = ⟨.caller, copts⟩) (ready : Ready node options t s)
    (after : ∀ x r t' s', o.Came c x r → H.machine.Still t' → Ready node options t' s' →
      (Ends (H.home node options) R (f r) s' ↔ P x t')) :
    Ends (H.home node options) R ((o.send index).on c >>= f) s ↔
      Ends H.machine P (o.inPlace H.registry index) t := by
  have written := overwrites .empty c.packet
  unfold inPlace
  unfold Admitted at admitted
  generalize o.write index .empty = x at written admitted ⊢
  generalize sent : o.write index c.packet = y at written
  cases written with
  | error e =>
    rw [send, RpcClient.on_request_error sent, Prog.done_bind]
    refine (after (.error _) _ t s ⟨rfl, rfl, ?_⟩ still ready).trans EndsWithin.done_iff.symm
    intro said refused
    cases refused
  | @ok p q alike command =>
    rw [send, RpcClient.on_request sent, bind_assoc]
    refine (Host.call_told (c := { c with packet := q })
      (P := fun said t' => P ((Host.outcome said.1).map fun _ => said) t') lawful still
      (admitted p rfl) (frank.showsFailure lawful p) alike channel ready ?_).trans
      EndsWithin.map_iff.symm
    intro d t' c' e still' kept same client
    refine after _ _ t' _ ⟨?_, client, ?_⟩ still' (.idle e)
    · show (Host.outcome d).map _ = ((Host.outcome d).map _).map _
      cases Host.outcome d <;> rfl
    · intro said ok
      have ok : (Host.outcome d).map (fun _ => told d) = .ok said := ok
      cases result : Host.outcome d with
      | error e =>
        rw [result] at ok
        cases ok
      | ok part =>
        rw [result] at ok
        cases ok
        exact ⟨told_same same, same.command.trans (kept.trans command),
          same.errorCode.trans (Host.errorCode_of_outcome result)⟩

end Order

/-- The limits let a lookup of the unit's name through, and the operation if the unit is found. -/
structure Command.Admitted {τ : Type} (H : Host τ) (options copts : LinkOptions) (t : τ)
    (name : String) (cmd : Command) : Prop where
  lookup : ∀ p, (Packet.empty.prepare Protocol.pdu getIndexByName 0).setName name = .ok p →
    p.length.toNat ≤ options.maxPayload
  order : ∀ index, H.registry.lookup name = .ok index →
    cmd.order.Admitted H options copts t index

end Pdu

namespace PduClient

open Host (Ready)

variable {τ α β : Type} {H : Host τ} {node : NodeId} {options copts : LinkOptions} {t : τ}
  {s : Remote τ}

/-! ## Between two calls -/

theorem home_still (still : H.machine.Still t) (e : Packet) :
    (H.home node options).Still (Host.idle node options e t) := by
  have far : (H.remote node options).Still (Host.idle node options e t) :=
    Host.remote_still still []
  exact far

theorem host_eq (ready : Ready node options t s) : s.host = t := by
  cases ready <;> rfl

/-- An act between two calls, where going on is the same however it is answered. -/
theorem act_iff {R : β → Remote τ → Prop} {a : Act} {next : a.Reply → Task β} {P : Prop}
    (still : H.machine.Still t) (ready : Ready node options t s)
    (live : ∀ s, Ready node options t s → ∃ r s', (H.home node options).answers s a r s')
    (each : ∀ s r s', Ready node options t s → (H.home node options).answers s a r s' →
      (Ends (H.home node options) R (next r) s' ↔ P)) :
    Ends (H.home node options) R (.ask a next) s ↔ P := by
  constructor
  · intro ends
    obtain ⟨r, s', answered⟩ := live s ready
    exact (each s r s' ready answered).mp (ends.answered answered)
  · intro post
    have settled (e : Packet) :
        Ends (H.home node options) R (.ask a next) (Host.idle node options e t) :=
      .atRest (home_still still e) trivial (live _ (.idle e)) fun r s' answered =>
        (each _ r s' (.idle e) answered).mpr post
    cases ready with
    | idle e => exact settled e
    | fresh =>
      refine .ask trivial (.inr (live _ .fresh)) (fun s moved => ?_) fun r s' answered =>
        (each _ r s' .fresh answered).mpr post
      rw [Host.fresh_moves still moved]
      exact settled .empty

/-- Putting a client down changes nothing. -/
theorem keep_iff {R : β → Remote τ → Prop} {c : PduClient}
    {f : Except CallFailure Unit × PduClient → Task β} {P : Prop}
    (still : H.machine.Still t) (ready : Ready node options t s)
    (each : ∀ s, Ready node options t s → (Ends (H.home node options) R (f (.ok (), c)) s ↔ P)) :
    Ends (H.home node options) R (keep.on c >>= f) s ↔ P := by
  cases home : c.home with
  | none =>
    rw [on_keep_none home]
    exact each s ready
  | some cell =>
    rw [on_keep home, bind_assoc]
    refine act_iff still ready (fun s _ => ⟨(), s, .kept⟩) fun s r s' ready answered => ?_
    cases answered with
    | kept => exact each s ready
    | far answered => cases answered

/-- What follows an exchange: after a failure on the link, the connection is forgotten. -/
def mended : Except CallFailure α × PduClient → Task (Except CallFailure α × PduClient)
  | (.error (.link e), c) => disconnect.run c >>= fun s => .done (.error (.link e), s.2)
  | r => .done r

/-- Whether the connection is forgotten makes no difference to the result. -/
theorem mended_iff {c : PduClient} {rpc : RpcClient} {r : Except CallFailure α} {g : α → β}
    {Q : Except CallFailure β → τ → Prop} (connected : c.rpc = some rpc)
    (channel : rpc.channel = ⟨.caller, copts⟩) (still : H.machine.Still t)
    (ready : Ready node options t s) :
    Ends (H.home node options) (fun r s => Q r.1 s.host)
        (mended (r, c) >>= fun r => .done (r.1.map g, r.2)) s ↔ Q (r.map g) t := by
  have kept (r : Except CallFailure β) (c : PduClient) :
      Ends (H.home node options) (fun r s => Q r.1 s.host) (.done (r, c)) s ↔ Q r t := by
    rw [← host_eq ready]
    exact EndsWithin.done_iff
  cases r with
  | ok a => exact kept _ _
  | error e =>
    cases e with
    | remote code => exact kept _ _
    | link e =>
      rw [mended, run_disconnect, connected]
      simp only
      rw [Channel.close, channel]
      refine act_iff still ready (fun s ready => ⟨(), _, .hungUp ready⟩) ?_
      intro s r s' ready answered
      cases answered with
      | far answered => cases answered
      | hungUp ready' =>
        rw [← host_eq ready, host_eq ready']
        exact EndsWithin.done_iff

/-! ## Requests -/

theorem on_resolve_known {c : PduClient} (known : c.index ≠ 0) :
    resolve.on c = .done (.ok c.index, c) := by
  unfold resolve
  rw [Calling.on_bind, Calling.on_get, Prog.done_bind, Calling.andThen, if_neg known]
  rfl

/-- A client on a connection that does not know the index looks it up and puts itself down. -/
theorem on_resolve_unknown {c : PduClient} {rpc : RpcClient} (unknown : c.index = 0)
    (connected : c.rpc = some rpc) :
    resolve.on c
      = (RpcClient.indexByName Protocol.pdu Pdu.getIndexByName c.name).on rpc >>= fun r =>
        match r.1 with
        | .ok index => keep.on { c with rpc := some r.2, index } >>= fun put =>
            .done (put.1.map fun _ => index, put.2)
        | .error e => .done (.error e, { c with rpc := some r.2 }) := by
  unfold resolve
  rw [Calling.on_bind, Calling.on_get, Prog.done_bind, Calling.andThen, if_pos unknown,
    Calling.on_bind, on_onConnection, on_connected_some connected, Prog.done_bind]
  simp only
  rw [bind_assoc]
  congr 1
  funext r
  obtain ⟨result, rpc'⟩ := r
  cases result with
  | error e => rfl
  | ok index =>
    rw [Prog.done_bind, Calling.andThen, Calling.on_bind, Calling.on_modify, Prog.done_bind,
      Calling.andThen, Calling.on_bind]
    simp only
    congr 1
    funext put
    obtain ⟨put, c'⟩ := put
    cases put <;> rfl

/-- The part of a request after its index is known. -/
def ordering (o : Pdu.Order) (index : UInt16) : Calling PduClient Packet := do
  onConnection (o.send index)
  return (← connected).packet

theorem on_ordering {c : PduClient} {rpc : RpcClient} (o : Pdu.Order) (index : UInt16)
    (connected : c.rpc = some rpc) :
    (ordering o index).on c = (o.send index).on rpc >>= fun r =>
      .done (r.1.map fun _ => r.2.packet, { c with rpc := some r.2 }) := by
  unfold ordering
  rw [Calling.on_bind, on_onConnection, on_connected_some connected, Prog.done_bind]
  simp only
  rw [bind_assoc]
  congr 1
  funext r
  obtain ⟨result, rpc'⟩ := r
  cases result with
  | error e => rfl
  | ok =>
    rw [Prog.done_bind, Calling.andThen, Calling.on_bind, on_connected_some rfl]
    rfl

theorem on_request_eq (o : Pdu.Order) (c : PduClient) :
    (request o.protocol o.command o.channel o.change).on c
      = (resolve.on c >>= Calling.andThen (ordering o)) >>= mended := by
  rw [on_request, exchange, Calling.on_bind]
  congr 1
  funext r
  obtain ⟨result, c'⟩ := r
  cases result with
  | ok => rfl
  | error e => cases e <;> rfl

section

variable (c : PduClient) (rpc : RpcClient) {cmd : Pdu.Command} (lawful : H.Lawful)
  (still : H.machine.Still t) (frank : H.Frank t) (ready : Ready node options t s)
  (channel : rpc.channel = ⟨.caller, copts⟩)
  (Q : Except CallFailure PduAnswer → τ → Prop)

include lawful still frank ready channel

/-- An operation of a client that has its unit's index is its order, carried out in place. -/
theorem ordering_iff (connected : c.rpc = some rpc) {index : UInt16} (found : index ≠ 0)
    (admitted : cmd.order.Admitted H options copts t index) :
    Ends (H.home node options) (fun r s => Q r.1 s.host)
        ((ordering cmd.order index).on c >>= fun r => mended r >>= fun r =>
          .done (r.1.map cmd.read, r.2)) s ↔
      Ends H.machine Q
        (cmd.order.inPlace H.registry index >>= fun x => .done (x.map cmd.tell)) t := by
  rw [on_ordering cmd.order index connected, bind_assoc]
  refine Iff.trans ?_ EndsWithin.map_iff.symm
  refine Pdu.Order.send_iff lawful still frank (cmd.order_overwrites found) admitted channel ready ?_
  intro x r t' s' came still' ready'
  have channel' : r.2.channel = ⟨.caller, copts⟩ := by
    rw [came.client]
    exact channel
  have answered : (r.1.map fun _ => r.2.packet).map cmd.read = x.map cmd.tell := by
    rw [came.result]
    cases x with
    | error e => rfl
    | ok said =>
      obtain ⟨told, command, success⟩ := came.reply said rfl
      show Except.ok (cmd.read r.2.packet) = .ok (cmd.tell said)
      rw [← told, cmd.tell_told command success]
  rw [← answered, Prog.done_bind]
  exact mended_iff rfl channel' still' ready'

/-- **An operation comes to what it comes to in place**: whatever is in the envelope, and whether the
index is known or has to be looked up. -/
theorem perform_iff (connected : c.rpc = some rpc)
    (known : c.index = 0 ∨ H.registry.lookup c.name = .ok c.index)
    (admitted : cmd.Admitted H options copts t c.name) :
    Ends (H.home node options) (fun r s => Q r.1 s.host) ((PduErrand.perform cmd).on c) s ↔
      Ends H.machine Q (cmd.inPlace H.registry c.name) t := by
  rw [cmd.perform_eq, Calling.on_map, on_request_eq]
  by_cases unknown : c.index = 0
  · rw [on_resolve_unknown unknown connected, bind_assoc, bind_assoc, bind_assoc]
    have ends := Host.home_ends (Host.indexByName_ends channel still ready admitted.lookup)
    refine ends.bind_iff_of ?_
    intro r s post
    obtain ⟨result, rpc'⟩ := r
    obtain ⟨told, client, ready⟩ := post
    have channel' : rpc'.channel = ⟨.caller, copts⟩ :=
      (congrArg RpcClient.channel client).trans channel
    obtain rfl : result = H.registry.lookup c.name := told
    unfold Pdu.Command.inPlace
    cases looked : H.registry.lookup c.name with
    | error e => exact (mended_iff rfl channel' still ready).trans EndsWithin.done_iff.symm
    | ok index =>
      have found : index ≠ 0 := by
        rintro rfl
        exact Registry.lookup_ne_zero looked
      simp only
      rw [bind_assoc]
      refine keep_iff still ready fun s ready => ?_
      rw [Prog.done_bind]
      exact ordering_iff { c with rpc := some rpc', index } rpc' lawful still frank ready channel' Q
        rfl found (admitted.order index looked)
  · have looked := known.resolve_left unknown
    rw [on_resolve_known unknown, Prog.done_bind, Calling.andThen, bind_assoc, Pdu.Command.inPlace,
      looked]
    exact ordering_iff c rpc lawful still frank ready channel Q connected unknown
      (admitted.order _ looked)

end

/-- **Operations do not depend on what earlier ones left behind.** Two clients of one unit that
differ in their envelopes, and in whether they have the index that a lookup gives, get the same
results and leave the node in the same states. -/
theorem operations_agree {c : PduClient} {rpc : RpcClient} (cmd : Pdu.Command) (lawful : H.Lawful)
    (still : H.machine.Still t) (frank : H.Frank t) (channel : rpc.channel = ⟨.caller, copts⟩)
    (admitted : cmd.Admitted H options copts t c.name) {p p' : Packet} {index index' : UInt16}
    (known : index = 0 ∨ H.registry.lookup c.name = .ok index)
    (known' : index' = 0 ∨ H.registry.lookup c.name = .ok index') {s' : Remote τ}
    (ready : Ready node options t s) (ready' : Ready node options t s')
    (Q : Except CallFailure PduAnswer → τ → Prop) :
    Ends (H.home node options) (fun r s => Q r.1 s.host)
        ((PduErrand.perform cmd).on { c with rpc := some { rpc with packet := p }, index }) s ↔
      Ends (H.home node options) (fun r s => Q r.1 s.host)
        ((PduErrand.perform cmd).on
          { c with rpc := some { rpc with packet := p' }, index := index' }) s' := by
  have first := perform_iff { c with rpc := some { rpc with packet := p }, index }
    { rpc with packet := p } lawful still frank ready channel Q rfl known admitted
  have second := perform_iff { c with rpc := some { rpc with packet := p' }, index := index' }
    { rpc with packet := p' } lawful still frank ready' channel Q rfl known' admitted
  exact first.trans second.symm

open Plant (oneOutlet oneUnit)

/-- A client of the strip, with a connection. -/
def ofUnit : PduClient :=
  { endpoint := .tcp "localhost" 13002, options := {}, name := "unit", rpc := some RpcClient.unused }

/-- A voltage is the same for a client that has the index and a name left over as for a new one. -/
theorem operations_agree_voltage :
    Ends ((Plant.host oneUnit).home 0 {})
        (fun r s => r.1 = .ok (.reading Strip.nominalVoltage) ∧ s.host = oneOutlet)
        ((PduErrand.perform (.voltage 1)).on ofUnit) (Host.fresh 0 {} oneOutlet) ∧
      Ends ((Plant.host oneUnit).home 0 {})
        (fun r s => r.1 = .ok (.reading Strip.nominalVoltage) ∧ s.host = oneOutlet)
        ((PduErrand.perform (.voltage 1)).on
          { ofUnit with rpc := some { RpcClient.unused with packet := Host.remains }, index := 1 })
        (Host.idle 0 {} Host.remains oneOutlet) := by
  let Q (r : Except CallFailure PduAnswer) (t : Plant) : Prop :=
    r = .ok (.reading Strip.nominalVoltage) ∧ t = oneOutlet
  have zeroFree : ZeroFree "unit" := by decide
  have carries : Packet.Carries (LinkOptions.maxPayload {}) "unit" :=
    Packet.carries_of_lt (by decide) _
  have looked : oneUnit.lookup "unit" = .ok 1 :=
    (Registry.lookup_eq_verdict zeroFree carries).trans rfl
  let p : Packet :=
    { Packet.empty with
      protocol := Protocol.pdu, command := Pdu.getVoltage, index := 1, channel := 1 }
  let d := p.setF64 .first Strip.nominalVoltage
  have dispatches : Plant.run? (Pdu.service.dispatch oneUnit p) oneOutlet
      = some (d, oneOutlet) := rfl
  have admits : (Plant.host oneUnit).Admits {} {} oneOutlet p := by
    refine ⟨Packet.hasMore_of_option rfl, Nat.zero_le _, fun d t' run =>
      ⟨Plant.machine_still t', ?_⟩⟩
    rw [(Plant.yields_of_run? dispatches run).1]
    exact Nat.zero_le _
  have admitted : (Pdu.Command.voltage 1).Admitted (Plant.host oneUnit) {} {} oneOutlet "unit" := by
    refine ⟨fun p' written => ?_, fun index found => ?_⟩
    · obtain ⟨q, written', -, -, -, fits⟩ := Packet.setName_name zeroFree carries
        (Packet.empty.prepare Protocol.pdu Pdu.getIndexByName 0)
      cases written.symm.trans written'
      exact fits
    · cases looked.symm.trans found
      intro p' written
      cases written
      exact admits
  have first : Ends ((Plant.host oneUnit).home 0 {}) (fun r s => Q r.1 s.host)
      ((PduErrand.perform (.voltage 1)).on ofUnit) (Host.fresh 0 {} oneOutlet) := by
    refine (perform_iff ofUnit RpcClient.unused (Plant.host_lawful oneUnit) (Plant.machine_still _)
      (Plant.oneOutlet_strips.frank oneUnit) .fresh rfl Q rfl (.inl rfl) admitted).mpr ?_
    have inPlace : Plant.run? ((Pdu.Command.voltage 1).inPlace oneUnit "unit") oneOutlet
        = some (.ok (.reading Strip.nominalVoltage), oneOutlet) := by
      rw [Pdu.Command.inPlace, looked]
      rfl
    exact Plant.ends_of_run? inPlace
  exact ⟨first, (operations_agree (c := ofUnit) (.voltage 1) (Plant.host_lawful oneUnit)
    (Plant.machine_still _) (Plant.oneOutlet_strips.frank oneUnit) rfl admitted (.inl rfl)
    (.inr looked) .fresh (.idle Host.remains) Q).mp first⟩

end PduClient

end DeviceRpc
