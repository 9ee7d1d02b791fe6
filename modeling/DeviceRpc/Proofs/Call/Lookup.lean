import DeviceRpc.Proofs.Call.Remote
import DeviceRpc.Proofs.Device.PlantHost
import DeviceRpc.Proofs.Dispatch.Leftovers

/-!
# Looking a name up

A client asks a server for the index of a name. A short name travels in the carrier and a longer one
in the payload, each end tells by the length which it is, and both envelopes are full of what was
there before. The registry knows nothing of this and compares whole texts. The lookup agrees with
it all the same (`Host.lookup_agrees`): it gives the index under which just that text is registered,
and fails as not found when no object has it.
-/

namespace DeviceRpc

namespace Registry

variable {ω : Type}

/-- What a client is told about a name. -/
def verdict (registry : Registry ω) (name : String) : Except CallFailure UInt16 :=
  match registry.index? name with
  | some index => .ok index
  | none => .error (.remote .notFound)

/-- What a lookup of a name came to agrees with the registry. -/
structure Agrees (registry : Registry ω) (name : String) (result : Except CallFailure UInt16) :
    Prop where
  found : ∀ index, result = .ok index ↔ ∃ object, registry.At index name object
  missing : result = .error (.remote .notFound) ↔ name ∉ registry.names
  /-- Zero is no answer. -/
  counted : result ≠ .ok 0
  /-- The object is not there under another name. -/
  only : ∀ index name' object, result = .ok index → registry.At index name' object → name' = name

theorem verdict_eq_ok_iff {registry : Registry ω} {name : String} {index : UInt16} :
    registry.verdict name = .ok index ↔ ∃ object, registry.At index name object := by
  rw [← index?_eq_some_iff, verdict]
  cases registry.index? name with
  | none => simp
  | some index' => simp

theorem verdict_eq_error_iff {registry : Registry ω} {name : String} :
    registry.verdict name = .error (.remote .notFound) ↔ name ∉ registry.names := by
  rw [← index?_eq_none_iff, verdict]
  cases registry.index? name with
  | none => simp
  | some index => simp

theorem verdict_agrees (registry : Registry ω) (name : String) :
    registry.Agrees name (registry.verdict name) where
  found _ := verdict_eq_ok_iff
  missing := verdict_eq_error_iff
  counted := by
    intro zero
    obtain ⟨object, there⟩ := verdict_eq_ok_iff.mp zero
    exact there.index_ne_zero rfl
  only := by
    intro index name' object told there
    obtain ⟨object', registered⟩ := verdict_eq_ok_iff.mp told
    exact (there.unique registered).1

end Registry

open Packet (Same Named)

/-! ## On the server -/

namespace Service

variable {ω : Type} {registry : Registry ω} {p : Packet}

theorem exists_of_namedIndex {index : UInt16} (h : namedIndex registry p = .ok index) :
    ∃ name, p.name = .ok name ∧ registry.index? name = some index := by
  rw [namedIndex] at h
  split at h
  · cases h
  next name named =>
    split at h
    next found =>
      cases h
      exact ⟨name, named, found⟩
    next => cases h

/-- A failure of a lookup travels as it is. -/
theorem namedIndex_numbered {code : ErrorCode} (h : namedIndex registry p = .error code) :
    code.Numbered := by
  rw [namedIndex] at h
  split at h
  next e _ =>
    cases h
    cases e <;> rfl
  · split at h <;> cases h
    rfl

end Service

namespace Pdu

/-- The reply to a lookup. -/
def lookupReply (registry : Registry Object) (p : Packet) : Packet :=
  match Service.namedIndex registry p with
  | .ok index => { p with index, length := 0, errorCode := 0 }
  | .error code => { p with length := 0, errorCode := code.number }

/-- A lookup is answered from the registry, and asks nobody. -/
theorem dispatch_lookup {registry : Registry Object} {p : Packet}
    (protocol : p.protocol = Protocol.pdu) (command : p.command = getIndexByName) :
    service.dispatch registry p = .done (lookupReply registry p) := by
  have accepted : ¬ (p.protocol ≠ service.protocol ∧ p.protocol ≠ Protocol.system) :=
    fun other => other.1 protocol
  have row : service.table.row? p.command = some .lookup := by
    rw [command]
    rfl
  unfold Service.dispatch Service.handle lookupReply
  rw [if_neg accepted, row]
  cases Service.namedIndex registry p <;> rfl

theorem lookupReply_length (registry : Registry Object) (p : Packet) :
    (lookupReply registry p).length = 0 := by
  unfold lookupReply
  cases Service.namedIndex registry p <;> rfl

/-- What a client reads from the reply is what the server found. -/
theorem outcome_lookupReply (registry : Registry Object) (p : Packet) :
    ((Host.outcome (lookupReply registry p)).map fun _ => (lookupReply registry p).index)
      = (Service.namedIndex registry p).mapError .remote := by
  unfold lookupReply
  cases found : Service.namedIndex registry p with
  | ok index => rfl
  | error code =>
    have numbered : ErrorCode.ofNumber? code.number = some code :=
      Service.namedIndex_numbered found
    simp only [Host.outcome, numbered]
    rfl

end Pdu

/-- What a lookup of a name comes to: the server looks for what was written. -/
def Registry.lookup (registry : Registry Object) (name : String) : Except CallFailure UInt16 :=
  match (Packet.empty.prepare Protocol.pdu Pdu.getIndexByName 0).setName name with
  | .error e => .error (.link (.invalidArgument e.message))
  | .ok p => (Service.namedIndex registry p).mapError .remote

/-- A name that can be written is looked for as it is. -/
theorem Registry.lookup_eq_verdict {registry : Registry Object} {name : String} {maxPayload : Nat}
    (zeroFree : ZeroFree name) (carries : Packet.Carries maxPayload name) :
    registry.lookup name = registry.verdict name := by
  obtain ⟨p, written, named, -⟩ := Packet.setName_name zeroFree carries
    (Packet.empty.prepare Protocol.pdu Pdu.getIndexByName 0)
  rw [lookup, written, verdict]
  simp only [Service.namedIndex, named]
  cases registry.index? name <;> rfl

/-- No lookup gives the index zero. -/
theorem Registry.lookup_ne_zero {registry : Registry Object} {name : String} :
    registry.lookup name ≠ .ok 0 := by
  intro zero
  unfold lookup at zero
  split at zero
  · cases zero
  next p _ =>
    cases found : Service.namedIndex registry p with
    | error code =>
      rw [found] at zero
      cases zero
    | ok index =>
      rw [found] at zero
      cases zero
      obtain ⟨name', -, registered⟩ := Service.exists_of_namedIndex found
      obtain ⟨object, there⟩ := Registry.index?_eq_some_iff.mp registered
      exact there.index_ne_zero rfl

/-! ## On the client -/

/-- A client that was just connected. -/
def RpcClient.unused : RpcClient :=
  { endpoint := .tcp "localhost" 13002, options := {}, channel := ⟨.caller, {}⟩ }

namespace Host

variable {τ : Type} {H : Host τ} {node : NodeId} {options copts : LinkOptions} {t : τ}
  {c : RpcClient} {far : Remote τ} {name : String}

section

variable (channel : c.channel = ⟨.caller, copts⟩) (still : H.machine.Still t)
  (ready : Ready node options t far)

include channel still ready

/-- A lookup whose name was written comes to what the server finds, and nothing else happens on the
node. -/
theorem written_ends {p : Packet}
    (written : (c.packet.prepare Protocol.pdu Pdu.getIndexByName 0).setName name = .ok p)
    (fits : p.length.toNat ≤ options.maxPayload) :
    Ends (H.remote node options)
      (fun r s => r.1 = (Service.namedIndex H.registry p).mapError .remote ∧
        r.2 = { c with packet := r.2.packet } ∧ ∃ e, s = idle node options e t)
      ((RpcClient.indexByName Protocol.pdu Pdu.getIndexByName name).on c) far := by
  obtain ⟨like, whole⟩ := Packet.setName_like written
  have last : p.hasMore = false := Packet.hasMore_of_option like.option
  have dispatch : Ends H.machine
      (fun d t' => d = Pdu.lookupReply H.registry p ∧ t' = t)
      (Pdu.service.dispatch H.registry p) t := by
    rw [Pdu.dispatch_lookup like.protocol like.command]
    exact .done ⟨rfl, rfl⟩
  have called := call_ready (c := { c with packet := p }) channel (Same.refl whole) last fits still
    dispatch (by intro _ _ here; rw [here.2]; exact still)
    (by intro _ _ here; rw [here.1, Pdu.lookupReply_length]; exact Nat.zero_le _) ready
  rw [RpcClient.on_indexByName, Calling.on_bind, RpcClient.on_fill written, Prog.done_bind,
    Calling.andThen, Calling.on_discard, bind_assoc]
  refine .bind (called.mono (fun _ _ => trivial) ?_)
  intro r s post
  obtain ⟨result, c'⟩ := r
  obtain ⟨⟨d, e, t', ⟨rfl, rfl⟩, same, told, rfl⟩, client⟩ := post
  refine .done ⟨?_, ?_, e, rfl⟩
  · rw [← Pdu.outcome_lookupReply H.registry p, ← told, ← same.index]
    cases result <;> rfl
  · exact client

/-- A lookup comes to the same in every envelope. -/
theorem indexByName_ends
    (fits : ∀ p, (Packet.empty.prepare Protocol.pdu Pdu.getIndexByName 0).setName name = .ok p →
      p.length.toNat ≤ options.maxPayload) :
    Ends (H.remote node options)
      (fun r s => r.1 = H.registry.lookup name ∧ r.2 = { c with packet := r.2.packet } ∧
        Ready node options t s)
      ((RpcClient.indexByName Protocol.pdu Pdu.getIndexByName name).on c) far := by
  have named : Named
      ((Packet.empty.prepare Protocol.pdu Pdu.getIndexByName 0).setName name)
      ((c.packet.prepare Protocol.pdu Pdu.getIndexByName 0).setName name) :=
    Packet.setName_twin (Packet.prepare_twin .empty c.packet _ _ 0 0) name
  unfold Registry.lookup
  generalize (Packet.empty.prepare Protocol.pdu Pdu.getIndexByName 0).setName name = x
    at named fits ⊢
  generalize written : (c.packet.prepare Protocol.pdu Pdu.getIndexByName 0).setName name = y
    at named
  cases named with
  | error e =>
    rw [RpcClient.on_indexByName, RpcClient.on_fill_error written]
    exact .done ⟨rfl, rfl, ready⟩
  | @ok p q twin name =>
    have accepted : q.length.toNat ≤ options.maxPayload := twin.length ▸ fits p rfl
    refine (written_ends channel still ready written accepted).mono (fun _ _ => trivial) ?_
    intro r s post
    obtain ⟨told, client, e, rfl⟩ := post
    refine ⟨?_, client, .idle e⟩
    rw [told]
    simp only [Service.namedIndex, name]

variable (zeroFree : ZeroFree name) (carries : Packet.Carries options.maxPayload name)

include zeroFree carries

/-- A lookup comes to the registry's verdict, and nothing else happens on the node. -/
theorem lookup_ends :
    Ends (H.remote node options)
      (fun r s => r.1 = H.registry.verdict name ∧ r.2.channel = c.channel ∧
        ∃ e, s = idle node options e t)
      ((RpcClient.indexByName Protocol.pdu Pdu.getIndexByName name).on c) far := by
  obtain ⟨p, written, named, -, -, fits⟩ := Packet.setName_name zeroFree carries
    (c.packet.prepare Protocol.pdu Pdu.getIndexByName 0)
  refine (written_ends channel still ready written fits).mono (fun _ _ => trivial) ?_
  intro r s post
  obtain ⟨told, client, idle⟩ := post
  refine ⟨?_, by rw [client], idle⟩
  rw [told, Registry.verdict]
  simp only [Service.namedIndex, named]
  cases H.registry.index? name <;> rfl

/-- A name is found under an index just if it is registered under it, whatever the two envelopes
hold. -/
theorem lookup_agrees :
    Ends (H.remote node options)
      (fun r s => H.registry.Agrees name r.1 ∧ Ready node options t s)
      ((RpcClient.indexByName Protocol.pdu Pdu.getIndexByName name).on c) far := by
  refine (lookup_ends channel still ready zeroFree carries).mono (fun _ _ => trivial) ?_
  intro r s post
  obtain ⟨told, -, e, rfl⟩ := post
  rw [told]
  exact ⟨H.registry.verdict_agrees name, .idle e⟩

end

/-- Three names with fifteen bytes in common: the longest that is read from the carrier, and two
that are not. -/
def alikeUnits : Registry Object :=
  .of [("rack-7/psu-left", ⟨.device 0, 0⟩), ("rack-7/psu-left2", ⟨.device 1, 1⟩),
    ("rack-7/psu-left22", ⟨.device 2, 2⟩)] (by decide) (by decide)

/-- What a lookup of the first of them may leave in an envelope. -/
def remains : Packet :=
  { Packet.empty with
    carrier := .ofBytes (Utf8.encode "rack-7/psu-left"), option := 1, errorCode := 35 }

/-- The second of the three names is found as such. -/
theorem lookup_agrees_alikeUnits :
    Ends ((Plant.host alikeUnits).remote 0 {})
      (fun r _ => r.1 = .ok 2)
      ((RpcClient.indexByName Protocol.pdu Pdu.getIndexByName "rack-7/psu-left2").on
        { endpoint := .tcp "localhost" 13002, options := {}, channel := ⟨.caller, {}⟩,
          packet := remains })
      (idle 0 {} remains {}) := by
  refine (lookup_agrees (H := Plant.host alikeUnits) rfl (Plant.machine_still _) (.idle remains)
    (by decide) (fun _ => by decide)).mono (fun _ _ => trivial) ?_
  intro r _ post
  exact (post.1.found 2).mpr ⟨_, 1, rfl, rfl⟩

end Host

end DeviceRpc
