import DeviceRpc.Proofs.Call.Running
import DeviceRpc.Proofs.Program.Keeps
import DeviceRpc.Proofs.Relay.Inquiry

/-!
# What drivers ask

A driver gives commands to a device of its node, or works on a shared client and the connection of
it. It asks for nothing else (`Act.IsDriving`), whatever the command. So it leaves alone what is not
its own: the health of every object, and the nodes.

The connections that it works on are those that it was given: the ones that it dialed, and that of
the client as it was kept. If these are all in `H`, it sends and receives on no other
(`Drives`), and for a program that works on a client this is an invariant of the client
(`Calling.Stays`). What is known of a driver carries over to every judgment on its node that allows
so much (`Drives.keeps`).
-/

namespace DeviceRpc

/-- The client's connection is one of `H`. -/
def RpcClient.Within (H : Handle → Prop) (c : RpcClient) : Prop := H c.channel.handle

/-- The client's connection, if it has one, is one of `H`. -/
def PduClient.Within (H : Handle → Prop) (c : PduClient) : Prop :=
  ∀ rpc, c.rpc = some rpc → rpc.Within H

/-- What a driver may ask, with connections of `H`. -/
def Act.IsDriving (H : Handle → Prop) : Act → Prop
  | receive h _ _ | send h _ | hangUp h => H h
  | now | dial _ | parts _ | command _ _ | acquire _ | release _ | countReconnect _ | pduClient _
  | keepPduClient _ _ | keepEnvelope _ _ => True
  | _ => False

/-- How an act may be answered: with a connection of `H`, with a client that has none but such. -/
def Act.Provides (H : Handle → Prop) : (a : Act) → a.Reply → Prop
  | dial _, .ok h => H h
  | pduClient _, c => c.Within H
  | _, _ => True

/-- Where no connection is excluded, every answer will do. -/
theorem Act.provides_any (a : Act) (r : a.Reply) : a.Provides (fun _ => True) r := by
  cases a with
  | dial endpoint => cases r <;> trivial
  | pduClient cell => exact fun _ _ => trivial
  | _ => trivial

variable {σ α β : Type} {H : Handle → Prop} {P : α → Prop} {R : β → Prop}

/-- With connections of `H`, the task asks only what a driver may ask of them, and comes to a result
of `P`. -/
def Drives (H : Handle → Prop) (P : α → Prop) (p : Task α) : Prop :=
  Keeps (fun (_ : Unit) a r _ => a.Provides H r) (fun _ a => a.IsDriving H) (fun a _ => P a) p ()

namespace Drives

theorem done {a : α} (h : P a) : Drives H P (.done a) := h

theorem ask {a : Act} {P : a.Reply → Prop} (may : a.IsDriving H)
    (h : ∀ r, a.Provides H r → P r) : Drives H P (DeviceRpc.ask a) := ⟨may, fun r _ hr => h r hr⟩

theorem mono {Q : α → Prop} (h : ∀ a, P a → Q a) {p : Task α} (hp : Drives H P p) : Drives H Q p :=
  Keeps.mono (fun _ _ here => here) (fun a _ here => h a here) hp

theorem bind {f : β → Task α} {p : Task β} (hp : Drives H R p) (hf : ∀ b, R b → Drives H P (f b)) :
    Drives H P (p >>= f) := Keeps.andThen hp fun b _ here => hf b here

/-- Asking, and going on with what is provided. -/
theorem request {a : Act} {f : a.Reply → Task α} (may : a.IsDriving H)
    (go : ∀ r, a.Provides H r → Drives H P (f r)) : Drives H P (DeviceRpc.ask a >>= f) :=
  Keeps.request may fun r _ hr => go r hr

/-- Where a driver gets what it needs and may ask what it asks, it keeps up whatever is wanted. -/
theorem keeps {step : Answering σ} {I : σ → Act → Prop}
    (provides : ∀ s a r s', step s a r s' → a.Provides H r) (may : ∀ s a, a.IsDriving H → I s a) :
    ∀ {p : Task α} {s : σ}, Drives H P p → Keeps step I (fun a _ => P a) p s
  | .done _, _, h => h
  | .ask _ _, s, h =>
    ⟨may s _ h.1, fun r s' hr => keeps provides may (h.2 r () (provides s _ r s' hr))⟩

/-- With any connections, only what a driver may ask is asked at all. -/
theorem gives {p : Task α} (h : Drives (fun _ => True) P p) :
    Gives (Act.IsDriving fun _ => True) P p :=
  h.keeps (fun _ a r _ _ => a.provides_any r) fun _ _ => id

end Drives

/-! ## Reading -/

theorem deadline_drives (timeout : Option Nat) : Drives H (fun _ => True) (deadline timeout) := by
  cases timeout with
  | none => exact .done trivial
  | some ms => exact .request trivial fun _ _ => .done trivial

theorem receiveExactly_drives {h : Handle} (own : H h) (limit : Option Instant)
    {note : Bytes → Task Unit} (notes : ∀ bs, Drives H (fun _ => True) (note bs)) (want : Nat) :
    ∀ got, Drives H (fun _ => True) (receiveExactly h limit note want got) := by
  induction want using Nat.strongRecOn with
  | ind want ih =>
    intro got
    cases want with
    | zero =>
      unfold receiveExactly
      exact .done trivial
    | succ want =>
      rw [receiveExactly]
      refine .request own fun r _ => ?_
      cases r with
      | bytes first rest =>
        exact .bind (notes _) fun _ _ => ih _ (Nat.lt_succ_of_le (Nat.sub_le ..)) _
      | ended | reset | late => exact .done trivial

namespace Channel

variable {ch : Channel}

theorem transfer_drives (own : H ch.handle) (n : Nat) {note : Bytes → Task Unit}
    (notes : ∀ bs, Drives H (fun _ => True) (note bs)) :
    Drives H (fun _ => True) (ch.transfer n note) :=
  .bind (deadline_drives _) fun limit _ => receiveExactly_drives own limit notes n []

theorem readPayload_drives (own : H ch.handle) (p : Packet) {note : Packet → Task Unit}
    (notes : ∀ p, Drives H (fun _ => True) (note p)) :
    Drives H (fun _ => True) (ch.readPayload p note) := by
  rw [readPayload]
  split
  · exact .done trivial
  · split
    · exact .done trivial
    · split
      · exact .done trivial
      · refine .bind (notes _) fun _ _ => ?_
        refine .bind (transfer_drives own _ fun bs => notes _) fun r _ => ?_
        obtain ⟨bs, failure⟩ := r
        cases failure <;> exact .done trivial

theorem readPacket_drives (own : H ch.handle) (p : Packet) {note : Packet → Task Unit}
    (notes : ∀ p, Drives H (fun _ => True) (note p)) :
    Drives H (fun _ => True) (ch.readPacket p note) := by
  refine .bind (transfer_drives own headerSize fun _ => .done trivial) fun r _ => ?_
  obtain ⟨header, failure⟩ := r
  cases failure with
  | none => exact readPayload_drives own _ notes
  | some e => exact .done trivial

end Channel

/-! ## Calling -/

/-- The calling program works on every client of `C`, and leaves one. -/
def Calling.Stays (H : Handle → Prop) (C : σ → Prop) (t : Calling σ α) : Prop :=
  ∀ s, C s → Drives H (fun r => C r.2) (t.on s)

namespace Calling.Stays

variable {C : σ → Prop}

theorem bind {t : Calling σ β} {f : β → Calling σ α} (ht : Calling.Stays H C t)
    (hf : ∀ b, Calling.Stays H C (f b)) : Calling.Stays H C (t >>= f) := by
  intro s hs
  rw [on_bind]
  refine .bind (ht s hs) fun r hr => ?_
  obtain ⟨result, s'⟩ := r
  cases result with
  | error e => exact .done hr
  | ok b => exact hf b s' hr

theorem of_pure (a : α) : Calling.Stays H C (pure a) := fun _ hs => .done hs

/-- Looking at the client: what comes next may depend on what it is. -/
theorem of_get {f : σ → Calling σ α}
    (hf : ∀ s, C s → Drives H (fun r => C r.2) ((f s).on s)) :
    Calling.Stays H C (get >>= f) := by
  intro s hs
  rw [on_bind]
  exact hf s hs

theorem of_modify {f : σ → σ} (hf : ∀ s, C s → C (f s)) :
    Calling.Stays H C (modify f : Calling σ Unit) := fun s hs => .done (hf s hs)

theorem of_discard {t : Calling σ α} (ht : Calling.Stays H C t) :
    Calling.Stays H C (discard t : Calling σ Unit) := by
  intro s hs
  rw [on_discard]
  exact .bind (ht s hs) fun r hr => .done hr

end Calling.Stays

namespace RpcClient

open Calling (Stays)

theorem note_drives (home : Option CellId) (p : Packet) :
    Drives H (fun _ => True) (note home p) := by
  cases home with
  | none => exact .done trivial
  | some cell => exact .ask trivial fun _ _ => trivial

theorem connect_drives (endpoint : Endpoint) (options : LinkOptions) (home : Option CellId) :
    Drives H (fun r => ∀ c, r = .ok c → c.Within H) (connect endpoint options home) := by
  have dials : Drives H (fun r => ∀ h, r = .ok h → H h) (ask (.dial endpoint)) := by
    refine .ask trivial ?_
    rintro _ provided h rfl
    exact provided
  have connects : Drives H (fun r => ∀ ch, r = .ok ch → H ch.handle)
      (Channel.connect endpoint options) := by
    refine .bind dials fun r own => .done ?_
    cases r with
    | error e => rintro _ ⟨⟩
    | ok h =>
      intro _ same
      cases same
      exact own h rfl
  refine .bind connects fun r own => ?_
  cases r with
  | error e =>
    refine .done ?_
    rintro _ ⟨⟩
  | ok ch =>
    refine .done ?_
    intro _ same
    cases same
    exact own ch rfl

theorem modifyPacket_drives (change : Packet → Packet) :
    Stays H (Within H) (modifyPacket change) := .of_modify fun _ h => h

theorem fill_drives (change : Packet → Except Failure Packet) :
    Stays H (Within H) (fill change) := by
  refine .of_get fun c h => ?_
  cases change c.packet with
  | error e => exact .done h
  | ok p => exact .done h

theorem read_drives : Stays H (Within H) read := by
  intro c h
  rw [on_read]
  refine .bind (note_drives _ _) fun _ _ => ?_
  exact .bind (Channel.readPacket_drives h _ (note_drives _)) fun r _ => .done h

theorem call_drives : Stays H (Within H) call := by
  have write : Stays H (Within H) write := by
    refine .of_get fun c h => ?_
    rw [Calling.on_ofLink]
    exact .request h fun _ _ => .done h
  intro c h
  rw [call, Calling.on_onFailure]
  refine .bind ((Calling.Stays.of_get fun c h => ?_) c h) fun r hr => ?_
  · split
    · exact (Calling.Stays.bind write fun _ => read_drives) c h
    · exact read_drives c h
  · obtain ⟨result, c'⟩ := r
    cases result <;> exact .done hr

theorem indexByName_drives (protocol command : UInt16) (name : String) :
    Stays H (Within H) (indexByName protocol command name) :=
  .bind (modifyPacket_drives _) fun _ => .bind (fill_drives _) fun _ =>
    .bind (.of_discard call_drives) fun _ => .of_get fun _ h => .done h

end RpcClient

namespace PduClient

open Calling (Stays)

theorem keep_drives : Stays H (Within H) keep := by
  refine .of_get fun c h => ?_
  cases c.home with
  | none => exact .done h
  | some cell =>
    rw [Calling.on_lift]
    exact .request trivial fun _ _ => .done h

theorem connected_drives (c : PduClient) (h : c.Within H) :
    Drives H (fun r => (∀ rpc, r.1 = .ok rpc → rpc.Within H) ∧ r.2.Within H)
      (connected.on c) := by
  cases rpc : c.rpc with
  | some conn =>
    rw [on_connected_some rpc]
    refine .done ⟨?_, h⟩
    intro _ same
    cases same
    exact h conn rpc
  | none =>
    rw [on_connected_none rpc]
    refine .bind (RpcClient.connect_drives _ _ _) fun r own => ?_
    cases r with
    | error e =>
      refine .done ⟨?_, h⟩
      rintro _ ⟨⟩
    | ok conn =>
      have here : PduClient.Within H { c with rpc := some conn } := by
        intro _ same
        cases same
        exact own conn rfl
      refine .bind (keep_drives _ here) fun r kept => ?_
      obtain ⟨result, c'⟩ := r
      cases result with
      | error e =>
        refine .done ⟨?_, kept⟩
        rintro _ ⟨⟩
      | ok =>
        refine .done ⟨?_, kept⟩
        intro _ same
        cases same
        exact own conn rfl

theorem onConnection_drives {op : Calling RpcClient α} (stays : Stays H (RpcClient.Within H) op) :
    Stays H (Within H) (onConnection op) := by
  intro c h
  rw [on_onConnection]
  refine .bind (connected_drives c h) fun r here => ?_
  obtain ⟨result, c'⟩ := r
  cases result with
  | error e => exact .done here.2
  | ok rpc =>
    refine .bind (stays rpc (here.1 rpc rfl)) fun r left => .done ?_
    intro _ same
    cases same
    exact left

theorem resolve_drives : Stays H (Within H) resolve := by
  refine .of_get fun c h => ?_
  split
  · refine Calling.Stays.bind (onConnection_drives (RpcClient.indexByName_drives _ _ _)) ?_ c h
    intro index
    refine .bind (.of_modify fun _ h => h) fun _ => ?_
    exact .bind keep_drives fun _ => .of_pure index
  · exact .done h

theorem disconnect_drives (c : PduClient) (h : c.Within H) :
    Drives H (fun r => r.2.Within H) (disconnect.run c) := by
  rw [run_disconnect]
  have forgotten : c.forget.Within H := by rintro _ ⟨⟩
  cases rpc : c.rpc with
  | none => exact .done forgotten
  | some conn => exact .request (h conn rpc) fun _ _ => .done forgotten

theorem exchange_drives (protocol command channel : UInt16)
    (change : Packet → Except Failure Packet) :
    Stays H (Within H) (exchange protocol command channel change) := by
  refine .bind resolve_drives fun index => .bind (onConnection_drives ?_) fun _ => ?_
  · exact .bind (RpcClient.modifyPacket_drives _) fun _ =>
      .bind (RpcClient.modifyPacket_drives _) fun _ =>
        .bind (RpcClient.fill_drives _) fun _ => .of_discard RpcClient.call_drives
  · refine .bind (fun c h => ?_) fun rpc => .of_pure rpc.packet
    exact (connected_drives c h).mono fun _ here => here.2

theorem request_drives (protocol command channel : UInt16)
    (change : Packet → Except Failure Packet) :
    Stays H (Within H) (request protocol command channel change) := by
  intro c h
  rw [on_request]
  refine .bind (exchange_drives _ _ _ _ c h) fun r here => ?_
  obtain ⟨result, c'⟩ := r
  cases result with
  | ok p => exact .done here
  | error e =>
    cases e with
    | remote code => exact .done here
    | link e => exact .bind (disconnect_drives c' here) fun _ left => .done left

theorem reconnect_drives : Stays H (Within H) reconnect := by
  intro c h
  rw [on_reconnect]
  refine .bind (disconnect_drives c h) fun s left => ?_
  refine Calling.Stays.bind keep_drives (fun _ => .of_discard fun c h => ?_) s.2 left
  exact (connected_drives c h).mono fun _ here => here.2

end PduClient

theorem Inquiry.call_drives (q : Inquiry) : Calling.Stays H (PduClient.Within H) q.call := by
  intro c h
  rw [on_call]
  exact .bind (PduClient.request_drives _ _ _ _ c h) fun _ left => .done left

/-! ## Devices and relays -/

namespace Driver

theorem forward_drives (cell : CellId) {op : Calling PduClient α}
    (stays : Calling.Stays H (PduClient.Within H) op) :
    Drives H (fun _ => True) (forward cell op) := by
  have under {β : Type} {op : Calling PduClient β}
      (stays : Calling.Stays H (PduClient.Within H) op) :
      Drives H (fun _ => True) ((PduClient.transport cell).under op) := by
    refine .request trivial fun c own => ?_
    refine .bind (stays c own) fun r _ => ?_
    exact .request trivial fun _ _ => .done trivial
  have attempt : Drives H (fun _ => True) ((PduClient.transport cell).attempt op) := by
    refine .bind (under stays) fun r _ => ?_
    cases r with
    | ok a => exact .done trivial
    | error e =>
      simp only
      split
      · refine .request trivial fun _ _ => .bind (under PduClient.reconnect_drives) fun r _ => ?_
        cases r with
        | ok => exact under stays
        | error e => exact .done trivial
      · exact .done trivial
  refine .bind (R := fun _ => True) ?_ fun _ _ => .done trivial
  refine .request trivial fun _ _ => .bind attempt fun _ _ => ?_
  exact .request trivial fun _ _ => .done trivial

theorem perform_drives (d : Driver) (c : DeviceCommand) :
    Drives H (fun _ => True) (d.perform c) := by
  cases d with
  | device id => exact .ask trivial fun _ _ => trivial
  | relay cell =>
    have passes (q : Inquiry) := forward_drives (H := H) cell q.call_drives
    cases c with
    | switch on channel => exact passes (.switch on channel)
    | voltage channel => exact passes (.voltage channel)
    | current channel => exact passes (.current channel)
    | status => exact passes .status
    | channelOf name => exact passes (.channelOf name)
    | probe part => exact passes .inspect

theorem voltageCurrent_drives (d : Driver) (channel : UInt16) :
    Drives H (fun _ => True) (d.voltageCurrent channel) := by
  cases d with
  | device id =>
    refine .request trivial fun r _ => ?_
    cases r with
    | error code => exact .done trivial
    | ok v => exact .request trivial fun _ _ => .done trivial
  | relay cell => exact forward_drives cell (Inquiry.call_drives (.voltageCurrent channel))

theorem probes_drives (d : Driver) :
    Drives H (fun probes => ∀ probe ∈ probes, Drives H (fun _ => True) probe) d.probes := by
  cases d with
  | relay cell =>
    refine .done fun probe mem => ?_
    obtain rfl := List.mem_singleton.mp mem
    exact perform_drives (.relay cell) (.probe 0)
  | device id =>
    refine .request trivial fun n _ => .done ?_
    intro probe mem
    obtain ⟨part, -, rfl⟩ := List.mem_map.mp mem
    exact perform_drives (.device id) (.probe part)

end Driver

/-! ## Inspections -/

section

variable {step : Answering σ} {I : σ → Act → Prop} {monitor : MonitorId}

theorem Health.inspect_keeps (records : ∀ s healthy, I s (.setHealth monitor healthy)) :
    ∀ {probes : List Health.Probe} {s : σ},
      (∀ probe ∈ probes, ∀ s, Keeps step I (fun _ _ => True) probe s) →
      Keeps step I (fun _ _ => True) (Health.inspect monitor probes) s
  | [], s, _ => .request (records s true) fun _ _ _ => trivial
  | probe :: probes, s, keeps => by
    obtain ⟨here, later⟩ := List.forall_mem_cons.mp keeps
    refine (here s).andThen fun r s' _ => ?_
    cases r with
    | ok => exact inspect_keeps records later
    | error code => exact .request (records s' false) fun _ _ _ => trivial

/-- An inspection asks what the driver asks, and to record how it came out. -/
theorem Object.inspect_keeps (o : Object) (provides : ∀ s a r s', step s a r s' → a.Provides H r)
    (may : ∀ s a, a.IsDriving H → I s a) (records : ∀ s healthy, I s (.setHealth o.monitor healthy))
    (s : σ) : Keeps step I (fun _ _ => True) o.inspect s :=
  (o.driver.probes_drives.keeps provides may).andThen fun _ _ each =>
    Health.inspect_keeps records fun probe mem _ => (each probe mem).keeps provides may

end

end DeviceRpc
