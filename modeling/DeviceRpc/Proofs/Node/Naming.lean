import DeviceRpc.Proofs.Node.Booting
import DeviceRpc.Proofs.Pdu.Operations
import DeviceRpc.Proofs.Relay.Hop

/-!
# Which names reach

Settings, packets and the registry have each their own idea of a name. Settings take every text that
is not empty, the registry compares whole texts, and a packet carries the bytes before the first
zero. They meet on the texts without a zero: such a name, if it is not too long, is written into
every packet, is read from it as it was, and leads a client over a connection to its own unit and
its own outlet (`World.names_reach`).

**Names with a zero.** Settings accept them all the same. A short one is refused when it is written,
and of a long one the part after the zero is lost on the way (`World.lost_names`).
-/

namespace DeviceRpc

/-! ## In packets -/

namespace Packet

/-- Every packet takes the name and then carries just it. -/
def Bears (name : String) : Prop := ∀ p : Packet, ∃ q, p.setName name = .ok q ∧ q.name = .ok name

/-- What settings call short enough for a name on the wire. -/
def nameLimit : Nat := 1024

variable {name : String} {maxPayload : Nat}

theorem carries_of_short (short : (Utf8.encode name).length < nameLimit)
    (room : nameLimit ≤ maxPayload) : Carries maxPayload name := by
  intro _
  have counted : nameLimit < UInt32.size := by decide
  exact ⟨by omega, by omega⟩

/-- Short names are borne if they have no zero in them, and no others. -/
theorem bears_iff (short : (Utf8.encode name).length < nameLimit) : Bears name ↔ ZeroFree name := by
  constructor
  · intro bears
    obtain ⟨q, -, named⟩ := bears .empty
    exact zeroFree_of_name named
  · intro zeroFree p
    obtain ⟨q, written, named, -⟩ := setName_name zeroFree (carries_of_short short (Nat.le_refl _)) p
    exact ⟨q, written, named⟩

/-- Of a long name that is written, the part before the first zero is read. -/
theorem setName_cut {cut : String} (long : carrierSize ≤ (Utf8.encode name).length)
    (short : (Utf8.encode name).length < nameLimit)
    (before : Utf8.encode cut = Bytes.untilZero (Utf8.encode name ++ [0])) (p : Packet) :
    ∃ q, p.setName name = .ok q ∧ q.name = .ok cut := by
  have size : (Utf8.encode name ++ [0]).length = (Utf8.encode name).length + 1 := by
    rw [List.length_append, List.length_singleton]
  have small : nameLimit < UInt32.size := by decide
  have counted : (Utf8.encode name ++ [0]).length < UInt32.size := by
    rw [size]
    omega
  refine ⟨p.withPayload (Utf8.encode name ++ [0]), ?_, ?_⟩
  · rw [setName, if_neg (Nat.not_lt.mpr long), setPayload_of_lt counted]
  · rw [name_eq_ok_iff, nameBytes_withPayload counted]
    exact before

/-- What is written for a name is at most its bytes and a zero. -/
theorem length_setName {p q : Packet} (written : p.setName name = .ok q) :
    q.length.toNat ≤ (Utf8.encode name).length + 1 := by
  rw [setName] at written
  split at written
  · rw [setText] at written
    split at written
    · cases written
    · split at written <;> cases written
      exact Nat.zero_le _
  · by_cases counted : (Utf8.encode name ++ [0]).length < UInt32.size
    · rw [setPayload_of_lt counted] at written
      cases written
      refine Nat.le_of_eq ?_
      rw [length_withPayload counted, List.length_append, List.length_singleton]
    · rw [setPayload_of_le (Nat.not_lt.mp counted)] at written
      cases written

end Packet

/-! ## Through the registry -/

namespace Registry

/-- The server finds just what is registered, and it looks for the name that it reads. -/
theorem lookup_eq_ok_iff {registry : Registry Object} {name : String} {index : UInt16} {o : Object}
    (here : registry.At index name o) (short : (Utf8.encode name).length < Packet.nameLimit) :
    registry.lookup name = .ok index ↔ ZeroFree name := by
  constructor
  · intro looked
    unfold lookup at looked
    split at looked
    · cases looked
    next p _ =>
      cases found : Service.namedIndex registry p with
      | error code =>
        rw [found] at looked
        cases looked
      | ok index' =>
        rw [found] at looked
        cases looked
        obtain ⟨name', named, registered⟩ := Service.exists_of_namedIndex found
        obtain ⟨o', there⟩ := index?_eq_some_iff.mp registered
        obtain rfl : name = name' := (here.unique there).1
        exact Packet.zeroFree_of_name named
  · intro zeroFree
    rw [lookup_eq_verdict zeroFree (Packet.carries_of_short short (Nat.le_refl _))]
    exact verdict_eq_ok_iff.mpr ⟨o, here⟩

/-- What is looked for is what is read. -/
theorem lookup_eq_verdict_cut {registry : Registry Object} {name cut : String}
    (read : ∀ p : Packet, ∃ q, p.setName name = .ok q ∧ q.name = .ok cut) :
    registry.lookup name = registry.verdict cut := by
  obtain ⟨q, written, named⟩ := read (Packet.empty.prepare Protocol.pdu Pdu.getIndexByName 0)
  rw [lookup, written, verdict]
  simp only [Service.namedIndex, named]
  cases registry.index? cut <;> rfl

end Registry

/-! ## Over a connection -/

namespace PduClient

open Host (Ready)

section

variable {τ : Type} {H : Host τ} {node : NodeId} {options copts : LinkOptions} {t : τ}
  {s : Remote τ} {c : PduClient} {rpc : RpcClient} {index channel : UInt16} {outlet : String}
  {o : Object} (still : H.machine.Still t) (object : H.registry.object? index = some o)
  (zeroFree : ZeroFree outlet) (carries : Packet.Carries options.maxPayload outlet)
  (answers : Ends H.machine (fun a t' => a = .ok channel ∧ t' = t)
    ((Inquiry.channelOf outlet).ask o) t)
  (linked : rpc.channel = ⟨.caller, copts⟩) (ready : Ready node options t s)

include still object zeroFree carries answers linked ready

/-- A client that has its unit's index gets the channel that the unit answers. -/
theorem ordering_channel (connected : c.rpc = some rpc) :
    Ends (H.home node options) (fun r s => r.1 = .ok (.channel channel) ∧ s.host = t)
      ((ordering (Pdu.Command.channel outlet).order index).on c >>= fun r => mended r >>= fun r =>
        .done (r.1.map (Pdu.Command.channel outlet).read, r.2)) s := by
  let leg : Leg :=
    { cell := 0, monitor := 0, endpoint := rpc.endpoint, options := copts, name := c.name, node
      served := options, registry := H.registry }
  have sound (a : Except ErrorCode UInt16) (t' : τ) (here : a = .ok channel ∧ t' = t) :
      (Inquiry.channelOf outlet).Sound copts.maxPayload a := by
    rw [here.1]
    trivial
  have sent := leg.inquiry_ends (q := .channelOf outlet) still object ⟨zeroFree, carries⟩ answers
    (by rintro _ _ ⟨-, rfl⟩; exact still) sound linked ready
  rw [on_ordering _ index connected, bind_assoc]
  refine .bind ((Host.home_ends sent).mono (fun _ _ => trivial) ?_)
  intro r s' post
  obtain ⟨result, rpc'⟩ := r
  obtain ⟨e, t', rfl, linked', _, ⟨rfl, rfl⟩, told⟩ := post
  cases result with
  | error => cases told
  | ok =>
    have read : Except.ok (ε := CallFailure) (PduAnswer.channel rpc'.packet.channel)
        = .ok (.channel channel) := congrArg (Except.map PduAnswer.channel) told
    have ready' : Ready node options t' (Host.idle node options e t') := .idle e
    have mends := mended_iff (c := { c with rpc := some rpc' }) (r := .ok rpc'.packet)
      (g := (Pdu.Command.channel outlet).read) (Q := fun r s => r = .ok (.channel channel) ∧ s = t')
      rfl linked' still ready'
    exact mends.mpr ⟨read, rfl⟩

/-- A client of a unit gets the channel that the unit answers, whether it has the index or looks it
up. -/
theorem channel_ends (connected : c.rpc = some rpc)
    (known : c.index = index ∨ c.index = 0 ∧ H.registry.lookup c.name = .ok index ∧
      ∀ p, (Packet.empty.prepare Protocol.pdu Pdu.getIndexByName 0).setName c.name = .ok p →
        p.length.toNat ≤ options.maxPayload) :
    Ends (H.home node options) (fun r s => r.1 = .ok (.channel channel) ∧ s.host = t)
      ((PduErrand.perform (.channel outlet)).on c) s := by
  rw [Pdu.Command.perform_eq, Calling.on_map, on_request_eq]
  have indexed : index ≠ 0 := by
    obtain ⟨_, there⟩ := Registry.object?_eq_some_iff.mp object
    exact there.index_ne_zero
  rcases known with rfl | ⟨unknown, looked, fits⟩
  · rw [on_resolve_known indexed, Prog.done_bind, Calling.andThen, bind_assoc]
    exact ordering_channel still object zeroFree carries answers linked ready connected
  · rw [on_resolve_unknown unknown connected, bind_assoc, bind_assoc, bind_assoc]
    refine .bind ((Host.home_ends (Host.indexByName_ends linked still ready fits)).mono
      (fun _ _ => trivial) ?_)
    intro r s' post
    obtain ⟨result, rpc'⟩ := r
    obtain ⟨told, client, ready'⟩ := post
    obtain rfl : result = .ok index := told.trans looked
    have linked' : rpc'.channel = ⟨.caller, copts⟩ :=
      (congrArg RpcClient.channel client).trans linked
    simp only
    rw [bind_assoc]
    refine (keep_iff still ready' fun s'' ready'' => ?_).mpr trivial
    refine iff_true_intro ?_
    rw [Prog.done_bind]
    exact ordering_channel (c := { c with rpc := some rpc', index }) still object zeroFree carries
      answers linked' ready'' rfl

end

end PduClient

/-! ## On the node -/

/-- Nothing that a strip is told changes the names of its outlets. -/
theorem Strip.perform_names (s : Strip) (c : DeviceCommand) :
    (s.perform c).1.outlets.map Prod.fst = s.outlets.map Prod.fst := by
  cases c with
  | switch on channel =>
    rw [perform]
    cases s.place? channel with
    | error => rfl
    | ok place =>
      apply List.ext_getElem?
      intro k
      simp only [switch, List.getElem?_map, List.getElem?_modify]
      cases s.outlets[k]? with
      | none => rfl
      | some outlet =>
        by_cases switched : place = k
        · simp [switched]
        · simp [switched]
  | probe part =>
    unfold perform
    cases s.fault <;> rfl
  | _ => rfl

namespace Plant

/-- What a plant may have come to since, by whatever it was asked. -/
def Since : Plant → Plant → Prop := Relation.ReflTransGen fun p p' => ∃ a r, Answers p a r p'

/-- The device is a strip with outlets of these names. -/
def Offers (d : DeviceId) (outlets : List String) (p : Plant) : Prop :=
  ∃ s : Strip, p.devices[d]? = some (.strip s) ∧ s.outlets.map Prod.fst = outlets

variable {p p' : Plant} {d : DeviceId} {outlets : List String}

theorem Offers.perform (h : p.Offers d outlets) (d' : DeviceId) (c : DeviceCommand) :
    (p.perform d' c).1.Offers d outlets := by
  obtain ⟨s, strip, named⟩ := h
  unfold Plant.perform
  split
  next => exact ⟨s, strip, named⟩
  next device there =>
    by_cases same : d' = d
    · subst same
      obtain rfl : Device.strip s = device := Option.some.inj (strip.symm.trans there)
      refine ⟨(s.perform c).1, ?_, (s.perform_names c).trans named⟩
      exact List.getElem?_set_self (List.getElem?_eq_some_iff.mp strip).1
    · exact ⟨s, (List.getElem?_set_ne same).trans strip, named⟩

theorem Offers.answered (h : p.Offers d outlets) {a : Act} {r : a.Reply}
    (answered : Answers p a r p') : p'.Offers d outlets := by
  cases answered with
  | clock => exact h
  | does told =>
    cases a with
    | command d' c =>
      cases told
      exact h.perform d' c
    | awaitHealthy m limit =>
      rw [answer?] at told
      split at told
      · cases told
        exact h
      · cases limit <;> cases told
        exact h
    | parts | isHealthy | setHealth =>
      cases told
      exact h
    | _ => cases told

/-- A strip keeps the names of its outlets, whatever happens on its node. -/
theorem Offers.since (h : p.Offers d outlets) (since : p.Since p') : p'.Offers d outlets := by
  induction since with
  | refl => exact h
  | tail _ step ih =>
    obtain ⟨a, r, answered⟩ := step
    exact ih.answered answered

end Plant

namespace World

open Host (Ready indexByName_ends)

/-- What a node offers right after it was set up. -/
theorem boot_made {w w' : World} {settings : Settings} {id : NodeId} {node : Node}
    (valid : settings.validate = .ok ()) (booted : w.boot settings = .ok (w', id))
    (here : w'.nodes[id]? = some node) :
    List.Forall₂ w'.Made settings.pdus node.registry.entries := by
  obtain ⟨-, -, accepted⟩ := Settings.units_of_validate valid
  obtain ⟨w₁, objects, added, -, made⟩ := w.addUnits_made settings.pdus accepted
  rw [boot, added] at booted
  change w₁.addNode settings .pdu objects = _ at booted
  rw [addNode] at booted
  cases built : Registry.build objects with
  | error e =>
    rw [built] at booted
    cases booted
  | ok registry =>
    rw [built] at booted
    cases booted
    obtain rfl := Option.some.inj ((List.getElem?_concat_length ..).symm.trans here)
    rw [show registry.entries = objects from Registry.entries_of_build built]
    exact made.imp fun _ _ h => h.grown (.same rfl rfl)

/-- What clients of a node find under the name of the unit with this index, and under the names of
its outlets. -/
structure Reaches (registry : Registry Object) (plant : Plant) (id : NodeId) (options : LinkOptions)
    (own : UInt16) (unit : PduSettings) : Prop where
  /-- A lookup of the unit's name gives its index, unless there is a zero in it. -/
  index : (Utf8.encode unit.name).length < Packet.nameLimit →
    ∀ (c : RpcClient) copts s, c.channel = ⟨.caller, copts⟩ → Ready id options plant s →
      Ends ((Plant.host registry).remote id options)
        (fun r s => (r.1 = .ok own ↔ ZeroFree unit.name) ∧ Ready id options plant s)
        ((RpcClient.indexByName Protocol.pdu Pdu.getIndexByName unit.name).on c) s
  /-- An outlet's name gives its channel, whether the client has the unit's index or looks it up. -/
  channel : ∀ place outlet, unit.outlets[place]? = some outlet →
    (Utf8.encode outlet).length < Packet.nameLimit → ZeroFree outlet →
    ∃ channel : UInt16, channel.toNat = place + 1 ∧
      ∀ (c : PduClient) rpc copts s, c.name = unit.name → c.rpc = some rpc →
        rpc.channel = ⟨.caller, copts⟩ → Ready id options plant s →
        c.index = own ∨
          c.index = 0 ∧ (Utf8.encode unit.name).length < Packet.nameLimit ∧ ZeroFree unit.name →
        Ends ((Plant.host registry).home id options)
          (fun r s => r.1 = .ok (.channel channel) ∧ s.host = plant)
          ((PduErrand.perform (.channel outlet)).on c) s

/-- What was made for a unit is reached by its names, for as long as it is there. -/
theorem Made.reaches {w : World} {registry : Registry Object} {plant : Plant} {id : NodeId}
    {options : LinkOptions} {index : UInt16} {unit : PduSettings} {o : Object}
    (made : w.Made unit (unit.name, o)) (accepted : unit.Accepted)
    (there : registry.At index unit.name o) (since : w.plant.Since plant)
    (room : Packet.nameLimit ≤ options.maxPayload) :
    Reaches registry plant id options index unit := by
  have fits {name : String} (short : (Utf8.encode name).length < Packet.nameLimit) (p : Packet)
      (written : (Packet.empty.prepare Protocol.pdu Pdu.getIndexByName 0).setName name = .ok p) :
      p.length.toNat ≤ options.maxPayload :=
    Nat.le_trans (Packet.length_setName written) (Nat.le_trans short room)
  refine ⟨?_, ?_⟩
  · intro short c copts s channel ready
    refine (indexByName_ends (H := Plant.host registry) channel (Plant.machine_still plant) ready
      (fits short)).mono (fun _ _ => trivial) ?_
    intro r s' post
    obtain ⟨told, -, ready'⟩ := post
    rw [told]
    exact ⟨Registry.lookup_eq_ok_iff there short, ready'⟩
  · intro place outlet here short zeroFree
    obtain ⟨inside, -⟩ := List.getElem?_eq_some_iff.mp here
    cases accepted with
    | relay _ _ bare =>
      rw [bare] at inside
      exact absurd inside (Nat.not_lt_zero _)
    | strip _ alone _ _ distinct counted =>
      cases made.stands with
      | relay passed =>
        rw [alone] at passed
        cases passed
      | @strip d m _ device =>
        obtain ⟨strip, device', named⟩ :=
          Plant.Offers.since ⟨_, device, Strip.names_ofNames unit.outlets⟩ since
        refine ⟨UInt16.ofNat (place + 1), PduSettings.toNat_channel counted inside, ?_⟩
        intro c rpc copts s name connected linked ready known
        refine PduClient.channel_ends (H := Plant.host registry) (Plant.machine_still plant)
          (Registry.object?_eq_some_iff.mpr ⟨_, there⟩) zeroFree
          (Packet.carries_of_short short room)
          (Plant.channelOf_ends (m := m) device' named distinct counted here) linked ready connected
          ?_
        refine known.imp_right fun unknown => ?_
        obtain ⟨unknown, unitShort, unitFree⟩ := unknown
        rw [name]
        exact ⟨unknown, (Registry.lookup_eq_ok_iff there unitShort).mpr unitFree, fits unitShort⟩

/-- **The names that reach are those without a zero.** A name of accepted settings, of a unit or of
an outlet, that is short enough is borne by every packet just if there is no zero in it. Such a name
leads every client of the node, over every connection, to its own unit and its own outlet, whatever
the node was asked and whatever was registered there since it was set up. -/
theorem names_reach {settings : Settings} (valid : settings.validate = .ok ()) :
    (∀ unit ∈ settings.pdus, ∀ name ∈ unit.name :: unit.outlets,
      (Utf8.encode name).length < Packet.nameLimit → (Packet.Bears name ↔ ZeroFree name)) ∧
    ∀ (w w' : World) (id : NodeId) (node : Node), w.boot settings = .ok (w', id) →
      w'.nodes[id]? = some node → ∀ (registry : Registry Object) (plant : Plant),
      node.registry.entries <+: registry.entries → w'.plant.Since plant →
      ∀ k unit, settings.pdus[k]? = some unit → ∃ index : UInt16, index.toNat = k + 1 ∧
        Reaches registry plant id settings.server.options index unit := by
  refine ⟨fun unit _ name _ short => Packet.bears_iff short, ?_⟩
  intro w w' id node booted offered registry plant grown since k unit here
  have room : Packet.nameLimit ≤ settings.server.options.maxPayload :=
    Settings.server_of_validate valid
  obtain ⟨-, -, accepted⟩ := Settings.units_of_validate valid
  obtain ⟨index, o, number, there, made⟩ := Node.made_at (boot_made valid booted offered) here
  exact ⟨index, number, made.reaches (accepted unit (List.mem_of_getElem? here))
    (there.of_prefix grown) since room⟩

/-- The outlet `camera` of the unit `east` is found by a client that was just connected. -/
theorem names_reach_twoUnits : twoUnits.validate = .ok () ∧
    ∃ w' id node, boot twoUnits {} = .ok (w', id) ∧ w'.nodes[id]? = some node ∧
      ∃ index channel : UInt16, index.toNat = 1 ∧ channel.toNat = 2 ∧
        Ends ((Plant.host node.registry).remote id twoUnits.server.options)
          (fun r _ => r.1 = .ok index)
          ((RpcClient.indexByName Protocol.pdu Pdu.getIndexByName "east").on .unused)
          (Host.fresh id twoUnits.server.options w'.plant) ∧
        Ends ((Plant.host node.registry).home id twoUnits.server.options)
          (fun r _ => r.1 = .ok (.channel channel))
          ((PduErrand.perform (.channel "camera")).on
            { PduClient.ofUnit with name := "east" })
          (Host.fresh id twoUnits.server.options w'.plant) := by
  have valid : twoUnits.validate = .ok () := by decide
  refine ⟨valid, _, _, _, rfl, rfl, ?_⟩
  obtain ⟨index, number, reaches⟩ := (names_reach valid).2 {} _ _ _ rfl rfl _ _
    (List.prefix_refl _) .refl 0 _ rfl
  obtain ⟨channel, count, calls⟩ := reaches.channel 1 "camera" rfl (by decide) (by decide)
  refine ⟨index, channel, number, count, ?_, ?_⟩
  · refine (reaches.index (by decide) _ _ _ rfl .fresh).mono (fun _ _ => trivial) ?_
    intro r _ post
    exact post.1.mpr (by decide)
  · refine (calls _ _ _ _ rfl rfl rfl .fresh (.inr ⟨rfl, by decide, by decide⟩)).mono
      (fun _ _ => trivial) ?_
    intro r _ post
    exact post.1

/-- Units whose names have a zero in them. -/
def lostUnits : Settings where
  pdus := [{ name := "rack-7\x00psu-left-east", outlets := ["pump"] },
    { name := "psu\x00", outlets := ["pump"] }]

/-- The settings are accepted, but the short one of the names is not written, and of the long one the
server reads what is before the zero and does not find it. -/
theorem lost_names : lostUnits.validate = .ok () ∧
    (∀ p : Packet, p.setName "psu\x00"
      = .error (.invalidArgument "inline string contains NUL")) ∧
    (∀ p : Packet, ∃ q, p.setName "rack-7\x00psu-left-east" = .ok q ∧ q.name = .ok "rack-7") ∧
    ∃ w' id node, boot lostUnits {} = .ok (w', id) ∧ w'.nodes[id]? = some node ∧
      Ends ((Plant.host node.registry).remote id lostUnits.server.options)
        (fun r _ => r.1 = .error (.remote .notFound))
        ((RpcClient.indexByName Protocol.pdu Pdu.getIndexByName "rack-7\x00psu-left-east").on
          .unused)
        (Host.fresh id lostUnits.server.options w'.plant) := by
  have cut : ∀ p : Packet, ∃ q, p.setName "rack-7\x00psu-left-east" = .ok q ∧
      q.name = .ok "rack-7" := Packet.setName_cut (by decide) (by decide) (by decide)
  refine ⟨by decide, fun p => rfl, cut, _, _, _, rfl, rfl, ?_⟩
  refine (indexByName_ends (H := Plant.host _) rfl (Plant.machine_still _) .fresh ?_).mono
    (fun _ _ => trivial) ?_
  · intro p written
    exact Nat.le_trans (Packet.length_setName written) (by decide)
  · intro r _ post
    rw [post.1, Registry.lookup_eq_verdict_cut cut]
    rfl

end World

end DeviceRpc
