import DeviceRpc.Proofs.Call.Frames
import DeviceRpc.Proofs.Dispatch.Failures
import DeviceRpc.Proofs.Pdu.Addressing

/-!
# Prepared requests

Preparing a request sets the scalars of the envelope and drops the payload, and the edits that follow
write what the command takes. What nobody writes is left over from earlier requests and replies: the
bytes of the carrier, and the bytes behind the payload, which come back when only the length is
written. So a prepared request is told by what was prepared and written, and by what was left over,
byte by byte (`LeftOver`), and by nothing else of the connection's history.

Where what is left over is not where the command looks, a call comes to the same on any two
connections (`RpcClient.prepared_agree`). Where it is, the command takes it for an argument: a status
that asks for no limit after one that did is cut to the earlier limit
(`RpcClient.prepared_status_stale`).
-/

namespace DeviceRpc

/-! ## Bytes -/

namespace Bytes

/-- Two strings `a` and `b` after the same was written over them: each byte is the same in both, or
is still the one that was there. Behind the end there are zeros. -/
def Overwritten (a b a' b' : Bytes) : Prop :=
  ∀ k, a'.getD k 0 = b'.getD k 0 ∨ (a'.getD k 0 = a.getD k 0 ∧ b'.getD k 0 = b.getD k 0)

theorem getD_grow (n : Nat) (bs : Bytes) (k : Nat) : (grow n bs).getD k 0 = bs.getD k 0 := by
  simp only [grow, List.getD_eq_getElem?_getD, List.getElem?_append]
  split
  next => rfl
  next outside =>
    rw [List.getElem?_eq_none (Nat.not_lt.mp outside), List.getElem?_replicate]
    split <;> rfl

theorem getD_splice {off : Nat} {new bs : Bytes} (inside : off ≤ bs.length) (k : Nat) :
    (splice off new bs).getD k 0
      = if off ≤ k ∧ k < off + new.length then new.getD (k - off) 0 else bs.getD k 0 := by
  have front : (bs.take off).length = off := by
    rw [List.length_take]
    omega
  simp only [splice, List.getD_eq_getElem?_getD, List.append_assoc]
  by_cases before : k < off
  · rw [List.getElem?_append_left (by omega), List.getElem?_take_of_lt before,
      if_neg (fun h => absurd h.1 (Nat.not_le.mpr before))]
  · rw [List.getElem?_append_right (by omega), front]
    by_cases written : k < off + new.length
    · rw [List.getElem?_append_left (by omega), if_pos ⟨Nat.not_lt.mp before, written⟩]
    · rw [List.getElem?_append_right (by omega), List.getElem?_drop,
        if_neg (fun h => written h.2)]
      congr 2
      omega

/-- As many bytes, and the same in each place. -/
theorem eq_of_getD {a b : Bytes} (length : a.length = b.length)
    (each : ∀ k < a.length, a.getD k 0 = b.getD k 0) : a = b := by
  refine List.ext_getElem length fun k left right => ?_
  have same := each k left
  rwa [List.getD_eq_getElem?_getD, List.getD_eq_getElem?_getD, List.getElem?_eq_getElem left,
    List.getElem?_eq_getElem right] at same

theorem getD_take {n k : Nat} (h : k < n) (bs : Bytes) : (bs.take n).getD k 0 = bs.getD k 0 := by
  rw [List.getD_eq_getElem?_getD, List.getD_eq_getElem?_getD, List.getElem?_take_of_lt h]

namespace Overwritten

variable {a b a' b' : Bytes}

/-- Nothing was written. -/
theorem untouched (a b : Bytes) : Overwritten a b a b := fun _ => .inr ⟨rfl, rfl⟩

/-- All of it was written. -/
theorem all (a b bs : Bytes) : Overwritten a b bs bs := fun _ => .inl rfl

theorem grow (h : Overwritten a b a' b') (n : Nat) :
    Overwritten a b (Bytes.grow n a') (Bytes.grow n b') := by
  intro k
  rw [getD_grow, getD_grow]
  exact h k

theorem splice (h : Overwritten a b a' b') {off : Nat} (new : Bytes) (inside : off ≤ a'.length)
    (inside' : off ≤ b'.length) :
    Overwritten a b (Bytes.splice off new a') (Bytes.splice off new b') := by
  intro k
  rw [getD_splice inside, getD_splice inside']
  split
  next => exact .inl rfl
  next => exact h k

/-- Where the same was there before, the same is there now. -/
theorem same (h : Overwritten a b a' b') (before : ∀ k, a.getD k 0 = b.getD k 0) (k : Nat) :
    a'.getD k 0 = b'.getD k 0 := by
  rcases h k with now | ⟨left, right⟩
  · exact now
  · rw [left, right, before]

end Overwritten

end Bytes

/-! ## Writing into two envelopes -/

namespace Packet

variable {p q p' q' : Packet}

/-- What two envelopes `p` and `q` are after the same was written into them: all the same but for
bytes that nobody wrote. -/
structure LeftOver (p q p' q' : Packet) : Prop where
  scalars : p'.blank.bare = q'.blank.bare
  carrier : Bytes.Overwritten p.carrier.bytes q.carrier.bytes p'.carrier.bytes q'.carrier.bytes
  trailing : Bytes.Overwritten p.trailing q.trailing p'.trailing q'.trailing

namespace LeftOver

theorem length (h : LeftOver p q p' q') : p'.length = q'.length :=
  show p'.blank.bare.length = q'.blank.bare.length from congrArg Packet.length h.scalars

theorem prepare (p q : Packet) (protocol command index : UInt16) :
    LeftOver p q (p.prepare protocol command index) (q.prepare protocol command index) :=
  ⟨rfl, .untouched _ _, .untouched _ _⟩

/-- A scalar is written into both. -/
theorem scalar (h : LeftOver p q p' q') (f : Packet → Packet)
    (beside : ∀ p, (f p).carrier = p.carrier ∧ (f p).trailing = p.trailing ∧
      (f p).blank.bare = (f p.blank.bare)) : LeftOver p q (f p') (f q') where
  scalars := by rw [(beside p').2.2, (beside q').2.2, h.scalars]
  carrier := by
    rw [(beside p').1, (beside q').1]
    exact h.carrier
  trailing := by
    rw [(beside p').2.1, (beside q').2.1]
    exact h.trailing

theorem clearPayload (h : LeftOver p q p' q') : LeftOver p q p'.clearPayload q'.clearPayload :=
  h.scalar _ fun _ => ⟨rfl, rfl, rfl⟩

theorem withCarrier (h : LeftOver p q p' q') (c : Carrier) :
    LeftOver p q { p' with carrier := c } { q' with carrier := c } :=
  ⟨h.scalars, .all _ _ _, h.trailing⟩

theorem writeSlot (h : LeftOver p q p' q') (s : Slot) (v : Nat) :
    LeftOver p q (p'.writeSlot s v) (q'.writeSlot s v) where
  scalars := h.scalars
  carrier := by
    have fits := s.fits
    refine h.carrier.splice _ ?_ ?_
    all_goals
      rw [Carrier.length_bytes]
      omega
  trailing := h.trailing

theorem withLength (h : LeftOver p q p' q') (n : UInt32) :
    LeftOver p q { p' with length := n, trailing := Bytes.grow n.toNat p'.trailing }
      { q' with length := n, trailing := Bytes.grow n.toNat q'.trailing } where
  scalars := congrArg (fun b : Packet => { b with length := n }) h.scalars
  carrier := h.carrier
  trailing := h.trailing.grow _

theorem withPayload (h : LeftOver p q p' q') (bs : Bytes) :
    LeftOver p q (p'.withPayload bs) (q'.withPayload bs) where
  scalars := congrArg (fun b : Packet => { b with length := UInt32.ofNat bs.length }) h.scalars
  carrier := h.carrier
  trailing := (h.trailing.grow _).splice _ (Nat.zero_le _) (Nat.zero_le _)

end LeftOver

/-- Two results of writing the same into two envelopes. -/
inductive LeavesOver (p q : Packet) : Except Failure Packet → Except Failure Packet → Prop where
  | ok {p' q' : Packet} (h : LeftOver p q p' q') : LeavesOver p q (.ok p') (.ok q')
  | error (e : Failure) : LeavesOver p q (.error e) (.error e)

namespace LeavesOver

variable (h : LeftOver p q p' q')

include h

theorem setLength (n : UInt32) : LeavesOver p q (p'.setLength n) (q'.setLength n) := by
  unfold Packet.setLength
  rw [grow_of_lt (length_lt_memoryLimit n), grow_of_lt (length_lt_memoryLimit n)]
  exact .ok (h.withLength n)

theorem setPayload (bs : Bytes) : LeavesOver p q (p'.setPayload bs) (q'.setPayload bs) := by
  by_cases small : bs.length < UInt32.size
  · rw [setPayload_of_lt small, setPayload_of_lt small]
    exact .ok (h.withPayload bs)
  · rw [setPayload_of_le (Nat.not_lt.mp small), setPayload_of_le (Nat.not_lt.mp small)]
    exact .error _

theorem setText (s : String) : LeavesOver p q (p'.setText s) (q'.setText s) := by
  unfold Packet.setText
  simp only
  split
  · exact .error _
  · split
    · exact .error _
    · exact .ok (h.withCarrier _)

theorem setName (s : String) : LeavesOver p q (p'.setName s) (q'.setName s) := by
  unfold Packet.setName
  simp only
  split
  · have text := setText h s
    generalize p'.setText s = x at text ⊢
    generalize q'.setText s = y at text ⊢
    cases text with
    | ok h => exact .ok h.clearPayload
    | error e => exact .error e
  · exact setPayload h _

theorem set (field : Field) (v : Value) : LeavesOver p q (p'.set field v) (q'.set field v) := by
  by_cases kind : v.kind = field.kind
  · cases Fitting.of_kind kind with
    | scalar s x =>
      rw [set_scalar, set_scalar]
      exact .ok (h.scalar (setScalar s x) fun _ => by cases s <;> exact ⟨rfl, rfl, rfl⟩)
    | number slot kind =>
      rw [set_number _ slot kind, set_number _ slot kind]
      exact .ok (h.writeSlot _ _)
    | length n => exact setLength h n
    | text s => exact setText h s
    | buffer bs => exact setPayload h bs
    | size n => exact .error _
  · rw [set_mismatch _ kind, set_mismatch _ kind]
    exact .error _

end LeavesOver

/-- Where the same was there before, the two are the same to everyone who gets them. -/
theorem LeftOver.same (h : LeftOver p q p' q') (whole : p'.Whole) (whole' : q'.Whole)
    (carrier : p.carrier = q.carrier) (trailing : ∀ k, p.trailing.getD k 0 = q.trailing.getD k 0) :
    Same p' q' := by
  have carriers : p'.carrier = q'.carrier := by
    have bytes : p'.carrier.bytes = q'.carrier.bytes :=
      Bytes.eq_of_getD (p'.carrier.length_bytes.trans q'.carrier.length_bytes.symm)
        fun k _ => h.carrier.same (fun _ => by rw [carrier]) k
    cases left : p'.carrier with
    | mk =>
      cases right : q'.carrier with
      | mk =>
        rw [left, right] at bytes
        cases bytes
        rfl
  have payloads : p'.payload = q'.payload := by
    refine Bytes.eq_of_getD (by rw [whole, whole', h.length]) fun k inside => ?_
    have counted : k < p'.length.toNat := whole ▸ inside
    rw [payload, payload, ← h.length, Bytes.getD_take counted, Bytes.getD_take counted]
    exact h.trailing.same trailing k
  refine ⟨?_, payloads, whole⟩
  let join (b : Packet) (c : Carrier) : Packet := { b with carrier := c }
  have parts : join p'.blank.bare p'.carrier = join q'.blank.bare q'.carrier := by
    rw [h.scalars, carriers]
  exact parts

end Packet

/-! ## Edits -/

namespace RpcClient

open Packet (LeftOver LeavesOver)

namespace Setter

theorem change_leaves (u : Setter) {p q p' q' : Packet} (h : LeftOver p q p' q') :
    LeavesOver p q (u.change p') (u.change q') := by
  cases u with
  | field f v => exact .set h f v
  | length n => exact .setLength h n
  | payload bs => exact .setPayload h bs
  | name s => exact .setName h s
  | text s => exact .setText h s
  | clear => exact .ok h.clearPayload

/-- The edits one after the other, each with whether it was refused; what is refused changes
nothing. -/
def run : List Setter → Packet → List (Except Failure Unit) × Packet
  | [], p => ([], p)
  | u :: us, p =>
    match u.change p with
    | .ok p => let (results, p) := run us p; (.ok () :: results, p)
    | .error e => let (results, p) := run us p; (.error e :: results, p)

/-- The same edits are refused, and what the others leave differs only in what nobody wrote. -/
theorem run_leaves {p q : Packet} : ∀ (us : List Setter) {p' q' : Packet}, LeftOver p q p' q' →
    p'.Whole → q'.Whole →
    (run us p').1 = (run us q').1 ∧ LeftOver p q (run us p').2 (run us q').2 ∧
      (run us p').2.Whole ∧ (run us q').2.Whole
  | [], _, _, h, whole, whole' => ⟨rfl, h, whole, whole'⟩
  | u :: us, p', q', h, whole, whole' => by
    have leaves := u.change_leaves h
    have left {p'' : Packet} (written : u.change p' = .ok p'') : p''.Whole :=
      u.whole written fun _ => whole
    have right {q'' : Packet} (written : u.change q' = .ok q'') : q''.Whole :=
      u.whole written fun _ => whole'
    unfold run
    generalize u.change p' = x at leaves left ⊢
    generalize u.change q' = y at leaves right ⊢
    cases leaves with
    | ok h' =>
      obtain ⟨results, rest⟩ := run_leaves us h' (left rfl) (right rfl)
      exact ⟨congrArg (Except.ok () :: ·) results, rest⟩
    | error e =>
      obtain ⟨results, rest⟩ := run_leaves us h whole whole'
      exact ⟨congrArg (Except.error e :: ·) results, rest⟩

end Setter

/-- Prepares a request, edits it and calls. -/
def prepared (protocol command index : UInt16) (us : List Setter) : Calling RpcClient ReplyPart := do
  prepare protocol command index
  modifyPacket fun p => (Setter.run us p).2
  call

/-- The request that is prepared and edited in an envelope. -/
def request (protocol command index : UInt16) (us : List Setter) (p : Packet) : Packet :=
  (Setter.run us (p.prepare protocol command index)).2

theorem on_prepared (protocol command index : UInt16) (us : List Setter) (c : RpcClient) :
    (prepared protocol command index us).on c
      = call.on { c with packet := request protocol command index us c.packet } := by
  unfold prepared
  rw [Calling.on_bind, on_prepare, Prog.done_bind, Calling.andThen, Calling.on_bind,
    on_modifyPacket, Prog.done_bind, Calling.andThen]
  rfl

open Host (Ready)
open Pdu (AsksAlike)

section

variable {τ : Type} {H : Host τ} {node : NodeId} {options copts : LinkOptions} {t : τ}
  {c c' : RpcClient} {s s' : Remote τ}

/-- **What a prepared request inherits.** Of two envelopes that are prepared and edited the same way,
the same edits are refused, and what is sent differs at most in bytes that nobody wrote and that
each envelope had before; with the same bytes left over, it is the same frame. If what is left over
is not where the command looks, a call comes to the same result and the same state of the node on
both, whatever the two envelopes held. -/
theorem prepared_agree (lawful : H.Lawful) (still : H.machine.Still t) (frank : H.Frank t)
    (channel : c.channel = ⟨.caller, copts⟩) (channel' : c'.channel = ⟨.caller, copts⟩)
    (ready : Ready node options t s) (ready' : Ready node options t s')
    (protocol command index : UInt16) (us : List Setter) :
    (Setter.run us (c.packet.prepare protocol command index)).1
      = (Setter.run us (c'.packet.prepare protocol command index)).1 ∧
    LeftOver c.packet c'.packet (request protocol command index us c.packet)
      (request protocol command index us c'.packet) ∧
    (c.packet.carrier = c'.packet.carrier →
      (∀ k, c.packet.trailing.getD k 0 = c'.packet.trailing.getD k 0) →
      (request protocol command index us c.packet).frame
        = (request protocol command index us c'.packet).frame) ∧
    (AsksAlike (request protocol command index us c.packet)
        (request protocol command index us c'.packet) →
      H.Admits options copts t (request protocol command index us c.packet) →
      ∀ Q : Except CallFailure ReplyPart → Packet × List Binary64 → τ → Prop,
        Ends (H.home node options) (fun r s => Q r.1 (Pdu.told r.2.packet) s.host)
          ((prepared protocol command index us).on c) s ↔
        Ends (H.home node options) (fun r s => Q r.1 (Pdu.told r.2.packet) s.host)
          ((prepared protocol command index us).on c') s') := by
  obtain ⟨results, left, whole, whole'⟩ := Setter.run_leaves us
    (.prepare c.packet c'.packet protocol command index) (Packet.whole_of_length rfl)
    (Packet.whole_of_length rfl)
  refine ⟨results, left, fun carrier trailing => (left.same whole whole' carrier trailing).frame, ?_⟩
  intro alike admits Q
  have shows := frank.showsFailure lawful (request protocol command index us c.packet)
  have own := AsksAlike.refl alike.twin.whole
  rw [on_prepared, on_prepared]
  exact (Host.call_says (c := { c with packet := _ }) lawful still admits shows own channel ready
    Q).trans
    (Host.call_says (c := { c' with packet := _ }) lawful still admits shows alike channel' ready'
      Q).symm

end

/-! ## On one unit -/

open Plant (oneOutlet oneUnit)

/-- A switch is the same on a new client as on one with a name left over. -/
theorem prepared_agree_switch :
    Ends ((Plant.host oneUnit).home 0 {})
        (fun r s => r.1 = .ok .last ∧ s.host = (oneOutlet.perform 0 (.switch true 1)).1)
        ((prepared Protocol.pdu Pdu.turnOn 1 [.field .channel (.u16 1)]).on unused)
        (Host.fresh 0 {} oneOutlet) ∧
      Ends ((Plant.host oneUnit).home 0 {})
        (fun r s => r.1 = .ok .last ∧ s.host = (oneOutlet.perform 0 (.switch true 1)).1)
        ((prepared Protocol.pdu Pdu.turnOn 1 [.field .channel (.u16 1)]).on
          { unused with packet := Host.remains }) (Host.idle 0 {} Host.remains oneOutlet) := by
  let Q (r : Except CallFailure ReplyPart) (_ : Packet × List Binary64) (t : Plant) : Prop :=
    r = .ok .last ∧ t = (oneOutlet.perform 0 (.switch true 1)).1
  let p := request Protocol.pdu Pdu.turnOn 1 [.field .channel (.u16 1)] unused.packet
  have dispatches : Plant.run? (Pdu.service.dispatch oneUnit p) oneOutlet
      = some (p, (oneOutlet.perform 0 (.switch true 1)).1) := rfl
  have alike : AsksAlike p
      (request Protocol.pdu Pdu.turnOn 1 [.field .channel (.u16 1)] Host.remains) := by
    refine ⟨⟨rfl, rfl, rfl⟩, ?_, ?_, ?_⟩
    all_goals exact fun named => absurd named (by decide)
  have admits : (Plant.host oneUnit).Admits {} {} oneOutlet p := by
    refine ⟨Packet.hasMore_of_option rfl, Nat.zero_le _, fun d t' run =>
      ⟨Plant.machine_still t', ?_⟩⟩
    rw [(Plant.yields_of_run? dispatches run).1]
    exact Nat.zero_le _
  have frank := Plant.oneOutlet_strips.frank oneUnit
  have ready : Ready 0 {} oneOutlet (Host.idle 0 {} Host.remains oneOutlet) := .idle Host.remains
  have first : Ends ((Plant.host oneUnit).home 0 {}) (fun r s => Q r.1 (Pdu.told r.2.packet) s.host)
      ((prepared Protocol.pdu Pdu.turnOn 1 [.field .channel (.u16 1)]).on unused)
      (Host.fresh 0 {} oneOutlet) := by
    rw [on_prepared]
    refine (Host.call_says (c := { unused with packet := p }) (Plant.host_lawful oneUnit)
      (Plant.machine_still _) admits (frank.showsFailure (Plant.host_lawful oneUnit) p) (.refl rfl)
      rfl .fresh Q).mpr ?_
    refine (Plant.ends_of_run? dispatches).mono (fun _ _ => trivial) ?_
    rintro d t ⟨rfl, rfl⟩
    exact ⟨rfl, rfl⟩
  exact ⟨first, ((prepared_agree (Plant.host_lawful oneUnit) (Plant.machine_still _) frank rfl rfl
    .fresh ready Protocol.pdu Pdu.turnOn 1 [.field .channel (.u16 1)]).2.2.2 alike admits Q).mp
    first⟩

/-- A strip with three outlets. -/
def threeOutlets : Plant := { devices := [.strip (.ofNames ["a", "b", "c"])], health := [false] }

/-- The outlets up to the limit that is in the envelope, whoever wrote it. -/
theorem status_called {c : RpcClient} {s : Remote Plant} (channel : c.channel = ⟨.caller, {}⟩)
    (protocol : c.packet.protocol = Protocol.pdu) (command : c.packet.command = Pdu.status)
    (index : c.packet.index = 1) (option : c.packet.option = 0) (empty : c.packet.length = 0)
    (ready : Ready 0 {} threeOutlets s) :
    Ends ((Plant.host oneUnit).remote 0 {})
      (fun r s => r.1 = .ok .last ∧ r.2.packet.payload = Pdu.cut c.packet.limit [0, 0, 0] ∧
        r.2.packet.limit = c.packet.limit ∧ r.2.channel = c.channel ∧ Ready 0 {} threeOutlets s)
      (call.on c) s := by
  have object : oneUnit.object? c.packet.index = some ⟨.device 0, 0⟩ := by
    rw [index]
    rfl
  have strip : threeOutlets.devices[0]? = some (.strip (.ofNames ["a", "b", "c"])) := rfl
  have few : (Pdu.cut c.packet.limit [0, 0, 0]).length ≤ 3 := by
    unfold Pdu.cut
    split
    · exact Nat.le_refl 3
    · exact List.length_take_le' ..
  have small : (Pdu.cut c.packet.limit [0, 0, 0]).length < UInt32.size :=
    Nat.lt_of_le_of_lt few (by decide)
  have written : Inquiry.status.reply c.packet (.ok [0, 0, 0])
      = { c.packet.withPayload (Pdu.cut c.packet.limit [0, 0, 0]) with errorCode := 0 } := by
    have fits : Inquiry.status.write [0, 0, 0] c.packet = .ok _ :=
      Packet.setPayload_of_lt small c.packet
    unfold Inquiry.reply Pdu.written
    simp only [fits]
    rfl
  have dispatch : Ends Plant.machine
      (fun d t => t = threeOutlets ∧
        d = { c.packet.withPayload (Pdu.cut c.packet.limit [0, 0, 0]) with errorCode := 0 })
      (Pdu.service.dispatch oneUnit c.packet) threeOutlets := by
    rw [Inquiry.dispatch_asked (q := .status) command (.inl protocol) object, ← written]
    refine .bind ((Plant.ends_of_run? (Pdu.run?_status (m := 0) strip)).mono (fun _ _ => trivial) ?_)
    intro r t post
    obtain ⟨rfl, rfl⟩ := post
    exact .done ⟨rfl, rfl⟩
  refine (Host.call_ready channel (.refl (Packet.whole_of_length empty))
    (Packet.hasMore_of_option option) (empty ▸ Nat.zero_le _) (Plant.machine_still _) dispatch
    (fun _ t _ => Plant.machine_still t) ?_ ready).mono (fun _ _ => trivial) ?_
  · intro d t post
    rw [post.2]
    show (c.packet.withPayload _).length.toNat ≤ _
    rw [Packet.length_withPayload small]
    exact Nat.le_trans few (by decide)
  · intro r s called
    obtain ⟨⟨d, e, t, ⟨rfl, rfl⟩, same, result, rfl⟩, client⟩ := called
    have payload := same.payload.trans (Packet.payload_withPayload small c.packet)
    refine ⟨result, payload, same.limit, ?_, .idle e⟩
    rw [client]

/-- A status without a limit gives all outlets on a new client, and not on one that has asked for two
of them before. -/
theorem prepared_status_stale :
    Ends ((Plant.host oneUnit).remote 0 {}) (fun r _ => r.2.packet.payload = [0, 0, 0])
      ((prepared Protocol.pdu Pdu.status 1 []).on unused) (Host.fresh 0 {} threeOutlets) ∧
    Ends ((Plant.host oneUnit).remote 0 {}) (fun r _ => r.2.packet.payload = [0, 0])
      ((do
        discard (prepared Protocol.pdu Pdu.status 1 [.field (.u32 0) (.u32 2)])
        prepared Protocol.pdu Pdu.status 1 []).on unused) (Host.fresh 0 {} threeOutlets) := by
  constructor
  · rw [on_prepared]
    refine (status_called rfl rfl rfl rfl rfl rfl .fresh).mono (fun _ _ => trivial) ?_
    intro r s post
    exact post.2.1
  · rw [Calling.on_bind, Calling.on_discard, on_prepared, bind_assoc]
    refine .bind ((status_called rfl rfl rfl rfl rfl rfl .fresh).mono (fun _ _ => trivial) ?_)
    intro r s post
    obtain ⟨result, c⟩ := r
    obtain ⟨rfl, -, limit, channel, ready⟩ := post
    show Ends _ _ ((prepared Protocol.pdu Pdu.status 1 []).on c) s
    rw [on_prepared]
    refine (status_called (c := { c with packet := request Protocol.pdu Pdu.status 1 [] c.packet })
      channel rfl rfl rfl rfl rfl ready).mono (fun _ _ => trivial) ?_
    intro r s post
    have two : c.packet.limit = 2 := limit
    rw [post.2.1]
    show Pdu.cut c.packet.limit [0, 0, 0] = [0, 0]
    rw [two]
    rfl

end RpcClient

end DeviceRpc
