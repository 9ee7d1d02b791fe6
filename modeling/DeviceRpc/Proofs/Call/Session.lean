import Mathlib.Data.List.Forall2
import DeviceRpc.Proofs.Call.Remote
import DeviceRpc.Proofs.Device.PlantHost

/-!
# Calls over a connection and dispatches in place

A client calls any number of times over one connection. Before each call it edits its envelope,
which still holds the last reply, and the server reads every request into an envelope of its own,
which holds its last reply too. In place, the same edits are made to one packet, and the packet is
dispatched where it is.

The two agree call by call (`Host.session_in_place`). A call succeeds where the packet dispatched in
place has no error code and fails with that code where it has one; the client's envelope then has
the content of that packet, and the host is in the state that dispatching leaves. A call that fails
is no exception, so it does not shift the replies of later ones.
-/

namespace DeviceRpc

open Packet (Same)

/-- A change to an envelope that depends on the content only. -/
structure Packet.Edit where
  change : Packet → Packet
  same : ∀ {p q}, Same p q → Same (change p) (change q)

/-- Sending one packet, whatever the envelope holds. -/
def Packet.Edit.const (p : Packet) (whole : p.Whole) : Packet.Edit := ⟨fun _ => p, fun _ => .refl whole⟩

namespace RpcClient

/-- Calls once after each edit; the results, each with the envelope after the call. -/
def calls : List Packet.Edit → RpcClient → Task (List (Except CallFailure ReplyPart × Packet))
  | [], _ => return []
  | edit :: edits, c => do
    let (result, c) ← Calling.on (do modifyPacket edit.change; call) c
    return (result, c.packet) :: (← calls edits c)

/-- Connects, and calls once after each edit. -/
def session (endpoint : Endpoint) (options : LinkOptions) (home : Option CellId)
    (edits : List Packet.Edit) :
    Task (Except CallFailure (List (Except CallFailure ReplyPart × Packet))) := do
  match ← connect endpoint options home with
  | .ok c => return .ok (← calls edits c)
  | .error e => return .error e

end RpcClient

/-- Edits a packet and dispatches it in place, time after time; each request with its reply. -/
def Pdu.inPlace (registry : Registry Object) :
    List Packet.Edit → Packet → Task (List (Packet × Packet))
  | [], _ => return []
  | edit :: edits, p => do
    let reply ← Pdu.service.dispatch registry (edit.change p)
    return (edit.change p, reply) :: (← inPlace registry edits reply)

namespace Host

variable {τ : Type} {H : Host τ} {node : NodeId} {options copts : LinkOptions}

/-- A request that announces no other packet, and that the server accepts as the client accepts its
reply. -/
def Admitted (options copts : LinkOptions) (exchange : Packet × Packet) : Prop :=
  exchange.1.hasMore = false ∧ exchange.1.length.toNat ≤ options.maxPayload ∧
    exchange.2.length.toNat ≤ copts.maxPayload

/-- What a call came to, beside the packet dispatched in place. -/
def Agrees (called : Except CallFailure ReplyPart × Packet) (exchange : Packet × Packet) : Prop :=
  called.1 = outcome exchange.2 ∧ Same called.2 exchange.2

/-- From any point on, the calls that remain agree with the dispatches that remain. -/
theorem calls_in_place (still : ∀ t, H.machine.Still t) :
    ∀ (edits : List Packet.Edit) {c : RpcClient} {p : Packet} {t : τ} {s : Remote τ}
      {Q : List (Packet × Packet) → τ → Prop}, c.channel = ⟨.caller, copts⟩ →
      Same c.packet p → Ready node options t s →
      Ends H.machine Q (Pdu.inPlace H.registry edits p) t →
      (∀ exchanges t', Q exchanges t' → ∀ x ∈ exchanges, Admitted options copts x) →
      Ends (H.remote node options)
        (fun results s => ∃ exchanges, Q exchanges s.host ∧ List.Forall₂ Agrees results exchanges)
        (RpcClient.calls edits c) s
  | [], c, p, t, s, Q, _, _, ready, returns, _ => by
    have host : s.host = t := by cases ready <;> rfl
    cases returns with
    | done here => exact .done ⟨[], host ▸ here, .nil⟩
  | edit :: edits, c, p, t, s, Q, channel, same, ready, returns, admitted => by
    -- what the first dispatch leads to, and that it leads anywhere
    have later := returns.of_bind
    have sound {d : Packet} {t' : τ}
        (h : Ends H.machine Q (Pdu.inPlace H.registry edits d >>= fun rest =>
          .done ((edit.change p, d) :: rest)) t') :
        Admitted options copts (edit.change p, d) := by
      obtain ⟨rest, t'', here⟩ := h.of_bind.exists_result
      cases here with
      | done here => exact admitted _ _ here _ (List.mem_cons_self ..)
    obtain ⟨d, t', first⟩ := later.exists_result
    obtain ⟨last, fits, -⟩ := sound first
    have step := call_ready (c := c.edit edit.change) channel (edit.same same) last fits (still t)
      later (fun _ t' _ => still t') (fun d t' h => (sound h).2.2) ready
    refine .bind (step.mono (fun _ _ => trivial) ?_)
    intro r s' post
    obtain ⟨result, c'⟩ := r
    obtain ⟨⟨d, e, t', next, same', rfl, rfl⟩, client⟩ := post
    have channel' : c'.channel = ⟨.caller, copts⟩ :=
      (congrArg RpcClient.channel client).trans channel
    refine .bind ((calls_in_place still edits channel' same' (.idle e) next.of_bind ?_).mono
      (fun _ _ => trivial) ?_)
    · intro rest t'' here x mem
      cases here with
      | done here => exact admitted _ _ here x (List.mem_cons_of_mem _ mem)
    · intro results s'' post
      obtain ⟨rest, here, agree⟩ := post
      cases here with
      | done here => exact .done ⟨_, here, .cons ⟨rfl, same'⟩ agree⟩

/-- A client that connects to a server and calls over the connection gets what dispatching the same
requests in place gives, one by one, and leaves the server's node in the same state. -/
theorem session_in_place (H : Host τ) (still : ∀ t, H.machine.Still t) (node : NodeId)
    (options : LinkOptions) (endpoint : Endpoint) (copts : LinkOptions) (home : Option CellId)
    (edits : List Packet.Edit) {Q : List (Packet × Packet) → τ → Prop} {t : τ}
    (returns : Ends H.machine Q (Pdu.inPlace H.registry edits .empty) t)
    (admitted : ∀ exchanges t', Q exchanges t' → ∀ x ∈ exchanges, Admitted options copts x) :
    Ends (H.remote node options)
      (fun r s => ∃ results exchanges, r = .ok results ∧ Q exchanges s.host ∧
        List.Forall₂ Agrees results exchanges)
      (RpcClient.session endpoint copts home edits) ⟨none, t⟩ := by
  refine .bind ((connects (still t) endpoint copts home).mono (fun _ ht => ht) ?_)
  intro _ _ post
  obtain ⟨rfl, rfl⟩ := post
  refine .bind ((calls_in_place still edits rfl (.refl Packet.whole_empty) .fresh returns
    admitted).mono (fun _ ht => ht) ?_)
  intro results s post
  obtain ⟨exchanges, here, agree⟩ := post
  exact .done ⟨results, exchanges, rfl, here, agree⟩

open Plant (oneOutlet oneUnit switchOn)

/-- A request for a unit that there is none of. -/
def switchNowhere : Packet := { switchOn with index := 9 }

set_option maxRecDepth 8000 in
/-- One call switches the outlet, one fails on the server, and one more succeeds again. -/
theorem session_switches :
    Ends ((Plant.host oneUnit).remote 0 {})
      (fun r s => ∃ results exchanges, r = .ok results ∧
        (exchanges = [(switchOn, switchOn),
          (switchNowhere, { switchNowhere with errorCode := 35 }), (switchOn, switchOn)] ∧
          s.host = (oneOutlet.perform 0 (.switch true 1)).1) ∧
        List.Forall₂ Agrees results exchanges)
      (RpcClient.session (.tcp "localhost" 13002) {} none
        [.const switchOn rfl, .const switchNowhere rfl, .const switchOn rfl])
      ⟨none, oneOutlet⟩ := by
  refine session_in_place (Plant.host oneUnit) Plant.machine_still 0 {} _ {} none _
    (Plant.ends_of_run? rfl) ?_
  intro exchanges _ post x mem
  obtain ⟨rfl, -⟩ := post
  simp only [List.mem_cons, List.not_mem_nil, or_false] at mem
  rcases mem with rfl | rfl | rfl <;> exact ⟨rfl, by decide, by decide⟩

end Host

end DeviceRpc
