import Mathlib.Data.List.Forall2
import DeviceRpc.Proofs.Config.Validation
import DeviceRpc.Proofs.Device.StripHost
import DeviceRpc.Proofs.Device.Units
import DeviceRpc.Proofs.Pdu.Addressing
import DeviceRpc.Proofs.Registry.Callers
import DeviceRpc.World.Nodes

/-!
# Setting a node up

Validation and setting up read the same settings with different eyes: the one looks at names and
addresses, the other makes devices, clients and monitors and numbers them. Nothing that validation
lets through fails afterwards (`World.boot_describes`): the node that comes of it offers the units
of the settings, in their order and counted from one, none of them healthy before its first
inspection.

**Growing.** Setting up only adds to a world. What an object stands for is told by its number, so
what was made for one unit stays when the next ones are made (`Made.grown`).
-/

namespace DeviceRpc

/-! ## A strip without power -/

namespace Strip

variable {names : List String} {place : Nat} {name : String}

theorem names_ofNames (names : List String) : (ofNames names).outlets.map Prod.fst = names := by
  rw [ofNames, List.map_map]
  exact List.map_id names

theorem status_ofNames (names : List String) :
    (ofNames names).status = List.replicate names.length 0 := by
  rw [status, ofNames, List.map_map]
  exact List.map_const' ..

/-- Among distinct names, each is at the place of its channel, whatever has power. -/
theorem channelOf_named {s : Strip} (named : s.outlets.map Prod.fst = names) (distinct : names.Nodup)
    (few : names.length ≤ PduSettings.maxOutlets) (here : names[place]? = some name) :
    s.channelOf name = .ok (UInt16.ofNat (place + 1)) := by
  obtain ⟨inside, rfl⟩ := List.getElem?_eq_some_iff.mp here
  have first : s.outlets.findIdx? (·.1 = names[place]) = some place := by
    show s.outlets.findIdx? ((fun name => decide (name = names[place])) ∘ Prod.fst) = _
    rw [← List.findIdx?_map, named, List.findIdx?_eq_some_iff_getElem]
    refine ⟨inside, decide_eq_true rfl, ?_⟩
    intro earlier before same
    have equal : earlier = place :=
      (List.Nodup.getElem_inj_iff distinct).mp (of_decide_eq_true same)
    omega
  have counted : place + 1 < 65536 := by
    unfold PduSettings.maxOutlets at few
    omega
  rw [channelOf, first]
  exact if_pos counted

theorem place?_ofNames {channel : UInt16} (first : 1 ≤ channel.toNat)
    (last : channel.toNat ≤ names.length) : (ofNames names).place? channel = .ok (channel.toNat - 1) :=
  place?_of_inside first (by rw [ofNames, List.length_map]; exact last)

end Strip

/-- What a unit with these outlets answers before anything was switched. -/
structure Object.Starts (o : Object) (plant : Plant) (outlets : List String) : Prop where
  status : Ends Plant.machine
    (fun a plant' => a = .ok (List.replicate outlets.length 0) ∧ plant' = plant)
    (o.driver.perform .status) plant
  channel : ∀ place name, outlets[place]? = some name → ∃ channel : UInt16,
    channel.toNat = place + 1 ∧
    Ends Plant.machine (fun a plant' => a = .ok channel ∧ plant' = plant)
      (o.driver.perform (.channelOf name)) plant ∧
    ∀ on, Ends Plant.machine (fun a _ => a = .ok ()) (o.driver.perform (.switch on channel)) plant

/-- What requests for the unit with this index and these outlets are answered before anything was
switched. -/
structure Registry.Starts (registry : Registry Object) (plant : Plant) (index : UInt16)
    (outlets : List String) : Prop where
  status : ∀ p : Packet, p.protocol = Protocol.pdu → p.index = index → p.command = Pdu.status →
    p.limit = 0 → Ends Plant.machine
      (fun reply plant' => reply.errorCode = 0 ∧ reply.payload = List.replicate outlets.length 0 ∧
        plant' = plant)
      (Pdu.service.dispatch registry p) plant
  channel : ∀ (p : Packet) place name, p.protocol = Protocol.pdu → p.index = index →
    p.command = Pdu.getChannelByName → p.name = .ok name → outlets[place]? = some name →
    Ends Plant.machine
      (fun reply plant' => reply.errorCode = 0 ∧ reply.channel.toNat = place + 1 ∧ plant' = plant)
      (Pdu.service.dispatch registry p) plant
  switch : ∀ p : Packet, p.protocol = Protocol.pdu → p.index = index →
    p.command = Pdu.turnOn ∨ p.command = Pdu.turnOff →
    1 ≤ p.channel.toNat → p.channel.toNat ≤ outlets.length →
    Ends Plant.machine (fun reply _ => reply.errorCode = 0) (Pdu.service.dispatch registry p) plant

section

variable {plant : Plant} {d : DeviceId} {m : MonitorId} {s : Strip} {outlets : List String}
  {registry : Registry Object} {index : UInt16}

/-- What a strip does not switch for leaves the plant as it was. -/
theorem Plant.perform_eq (strip : plant.devices[d]? = some (.strip s)) {c : DeviceCommand}
    (still : (s.perform c).1 = s) : plant.perform d c = (plant, (s.perform c).2) := by
  have same : plant.devices.set d (.strip (s.perform c).1) = plant.devices := by
    obtain ⟨inside, here⟩ := List.getElem?_eq_some_iff.mp strip
    rw [still, ← here]
    exact List.set_getElem_self inside
  have moved : (plant.perform d c).1 = plant := by
    unfold perform
    rw [strip]
    exact congrArg (fun devices => { plant with devices }) same
  exact Prod.ext moved (perform_strip strip c)

/-- The answer that a unit gives to an inquiry stands in the reply to every request that asks it. -/
theorem Inquiry.reply_ends {q : Inquiry} {o : Object} {p : Packet} {a : Except ErrorCode q.Answer}
    {S : Plant → Prop} (asked : q.Asked p) (protocol : p.protocol = Protocol.pdu)
    (object : registry.object? p.index = some o)
    (answers : Ends Plant.machine (fun a' plant' => a' = a ∧ S plant') (q.ask o) plant) :
    Ends Plant.machine (fun reply plant' => reply = q.reply p a ∧ S plant')
      (Pdu.service.dispatch registry p) plant := by
  rw [dispatch_asked asked (.inl protocol) object]
  refine .bind (answers.mono (fun _ _ => trivial) ?_)
  intro a' plant' here
  obtain ⟨rfl, rest⟩ := here
  exact .done ⟨rfl, rest⟩

/-- A strip tells the channels of its outlets, whatever has power. -/
theorem Plant.channelOf_ends (strip : plant.devices[d]? = some (.strip s))
    (named : s.outlets.map Prod.fst = outlets) (distinct : outlets.Nodup)
    (few : outlets.length ≤ PduSettings.maxOutlets) {place : Nat} {name : String}
    (here : outlets[place]? = some name) :
    Ends machine (fun a plant' => a = .ok (UInt16.ofNat (place + 1)) ∧ plant' = plant)
      ((Inquiry.channelOf name).ask ⟨.device d, m⟩) plant := by
  refine (ends_of_run? (run?_command d (.channelOf name) plant)).mono (fun _ _ => trivial) ?_
  intro a plant' told
  rw [perform_eq strip rfl] at told
  exact ⟨told.1.trans (Strip.channelOf_named named distinct few here), told.2⟩

variable (strip : plant.devices[d]? = some (.strip (.ofNames outlets)))

include strip

theorem Plant.switch_ends {channel : UInt16} (first : 1 ≤ channel.toNat)
    (last : channel.toNat ≤ outlets.length) (on : Bool) :
    Ends machine (fun a _ => a = .ok () ∧ True) ((Inquiry.switch on channel).ask ⟨.device d, m⟩)
      plant := by
  refine (ends_of_run? (run?_command_strip strip (.switch on channel))).mono
    (fun _ _ => trivial) ?_
  intro a _ here
  rw [here.1, Strip.perform_switch_ok (Strip.place?_ofNames first last)]
  exact ⟨rfl, trivial⟩

theorem Plant.status_ends :
    Ends machine (fun a plant' => a = .ok (List.replicate outlets.length 0) ∧ plant' = plant)
      (Inquiry.status.ask ⟨.device d, m⟩) plant := by
  refine (ends_of_run? (run?_command d .status plant)).mono (fun _ _ => trivial) ?_
  intro a plant' here
  rw [perform_eq strip rfl] at here
  exact ⟨here.1.trans (congrArg Except.ok (Strip.status_ofNames outlets)), here.2⟩

section

variable (distinct : outlets.Nodup) (few : outlets.length ≤ PduSettings.maxOutlets)

include distinct few

omit strip distinct in
theorem PduSettings.toNat_channel {place : Nat} (inside : place < outlets.length) :
    (UInt16.ofNat (place + 1)).toNat = place + 1 := by
  unfold PduSettings.maxOutlets at few
  rw [UInt16.toNat_ofNat']
  exact Nat.mod_eq_of_lt (by omega)

theorem Object.starts : (⟨.device d, m⟩ : Object).Starts plant outlets where
  status := Plant.status_ends (m := m) strip
  channel := by
    intro place name here
    obtain ⟨inside, -⟩ := List.getElem?_eq_some_iff.mp here
    have counted := PduSettings.toNat_channel few inside
    refine ⟨UInt16.ofNat (place + 1), counted,
      Plant.channelOf_ends (m := m) strip (Strip.names_ofNames outlets) distinct few here, ?_⟩
    intro on
    refine (Plant.switch_ends (m := m) strip ?_ ?_ on).mono (fun _ _ => trivial) fun _ _ h => h.1
    · omega
    · omega

theorem Registry.starts (object : registry.object? index = some ⟨.device d, m⟩) :
    registry.Starts plant index outlets where
  status := by
    intro p protocol indexed command unlimited
    have bytes : Pdu.cut p.limit (List.replicate outlets.length 0) = List.replicate outlets.length 0 :=
      Pdu.cut_of_le (.inl unlimited)
    have small : outlets.length < UInt32.size := by
      unfold PduSettings.maxOutlets at few
      have : UInt32.size = 4294967296 := rfl
      omega
    refine (Inquiry.reply_ends (q := .status) command protocol (indexed ▸ object)
      (Plant.status_ends strip)).mono (fun _ _ => trivial) ?_
    intro reply plant' here
    obtain ⟨rfl, rest⟩ := here
    have short : (Pdu.cut p.limit (List.replicate outlets.length 0)).length < UInt32.size := by
      rw [bytes, List.length_replicate]
      exact small
    have replied := Inquiry.status_reply short
    rw [bytes] at replied
    exact ⟨replied.1, replied.2, rest⟩
  channel := by
    intro p place name protocol indexed command named here
    obtain ⟨inside, -⟩ := List.getElem?_eq_some_iff.mp here
    refine (Inquiry.reply_ends (q := .channelOf name) ⟨command, named⟩ protocol (indexed ▸ object)
      (Plant.channelOf_ends strip (Strip.names_ofNames outlets) distinct few here)).mono
        (fun _ _ => trivial) ?_
    intro reply plant' told
    obtain ⟨rfl, rest⟩ := told
    exact ⟨rfl, PduSettings.toNat_channel few inside, rest⟩
  switch := by
    intro p protocol indexed command first last
    obtain ⟨on, asked⟩ : ∃ on, (Inquiry.switch on p.channel).Asked p := by
      rcases command with command | command
      · exact ⟨true, command, rfl⟩
      · exact ⟨false, command, rfl⟩
    refine (Inquiry.reply_ends asked protocol (indexed ▸ object)
      (Plant.switch_ends strip first last on)).mono (fun _ _ => trivial) ?_
    intro reply _ here
    rw [here.1]
    rfl

end

end

/-! ## Setting up -/

namespace World

/-- The second world has everything that the first one has, and monitors that have seen nothing. -/
structure Grown (w w' : World) : Prop where
  devices : w.plant.devices <+: w'.plant.devices
  cells : w.cells <+: w'.cells
  health : ∃ n, w'.plant.health = w.plant.health ++ List.replicate n false

/-- What an object of the world stands for, as the settings have it: a strip without power, or a
relay with a client that has yet to connect. -/
inductive Stands (w : World) (unit : PduSettings) : Object → Prop where
  | strip {d : DeviceId} {m : MonitorId} (alone : unit.relay = none)
      (device : w.plant.devices[d]? = some (.strip (.ofNames unit.outlets))) :
      Stands w unit ⟨.device d, m⟩
  | relay {relay : RelaySettings} {endpoint : Endpoint} {cell : CellId} {m : MonitorId}
      (passed : unit.relay = some relay) (address : relay.endpoint = .ok endpoint)
      (client : w.pduClient? cell = some
        { endpoint, options := relay.options, name := relay.name, home := some cell }) :
      Stands w unit ⟨.relay cell, m⟩

/-- What was made for a unit of the settings. -/
structure Made (w : World) (unit : PduSettings) (entry : String × Object) : Prop where
  name : entry.1 = unit.name
  stands : w.Stands unit entry.2
  unseen : w.health entry.2.monitor = false

variable {w w' w'' : World} {unit : PduSettings} {units : List PduSettings}
  {entry : String × Object} {objects : List (String × Object)}

/-- Only plant and cells matter. -/
theorem Grown.same (plant : w'.plant = w.plant) (cells : w'.cells = w.cells) : Grown w w' where
  devices := congrArg Plant.devices plant ▸ List.prefix_refl _
  cells := cells ▸ List.prefix_refl _
  health := ⟨0, by rw [plant, List.replicate_zero, List.append_nil]⟩

theorem Grown.trans (h : Grown w w') (h' : Grown w' w'') : Grown w w'' where
  devices := h.devices.trans h'.devices
  cells := h.cells.trans h'.cells
  health := by
    obtain ⟨n, before⟩ := h.health
    obtain ⟨n', after⟩ := h'.health
    refine ⟨n + n', ?_⟩
    rw [after, before, List.append_assoc, List.replicate_append_replicate]

theorem getElem?_of_grown {α : Type} {xs ys : List α} (h : xs <+: ys) {k : Nat} {x : α}
    (here : xs[k]? = some x) : ys[k]? = some x := by
  obtain ⟨rest, rfl⟩ := h
  obtain ⟨inside, -⟩ := List.getElem?_eq_some_iff.mp here
  rw [List.getElem?_append_left inside]
  exact here

/-- What was not seen to be healthy is not after the world has grown. -/
theorem Grown.unseen (h : Grown w w') {m : MonitorId} (unseen : w.health m = false) :
    w'.health m = false := by
  obtain ⟨n, health⟩ := h.health
  show w'.plant.health.getD m false = false
  have before : w.plant.health.getD m false = false := unseen
  rw [health, List.getD_eq_getElem?_getD, List.getElem?_append]
  split
  next => rwa [List.getD_eq_getElem?_getD] at before
  next =>
    rw [List.getElem?_replicate]
    split <;> rfl

theorem Grown.pduClient? (h : Grown w w') {cell : CellId} {client : PduClient}
    (here : w.pduClient? cell = some client) : w'.pduClient? cell = some client := by
  unfold World.pduClient? at here ⊢
  cases found : w.cells[cell]? with
  | none =>
    rw [found] at here
    cases here
  | some content =>
    rw [found] at here
    rw [getElem?_of_grown h.cells found]
    exact here

theorem Made.grown (made : w.Made unit entry) (h : Grown w w') : w'.Made unit entry where
  name := made.name
  stands := by
    obtain ⟨name, o⟩ := entry
    cases made.stands with
    | strip alone device => exact .strip alone (getElem?_of_grown h.devices device)
    | relay passed address client => exact .relay passed address (h.pduClient? client)
  unseen := h.unseen made.unseen

/-- A new monitor has seen nothing. -/
theorem new_unseen (health : List Bool) : (health ++ [false]).getD health.length false = false := by
  rw [List.getD_eq_getElem?_getD, List.getElem?_concat_length]
  rfl

/-- An accepted unit is made. -/
theorem addUnit_made (w : World) (accepted : unit.Accepted) :
    ∃ w' o, w.addUnit unit = .ok (w', o) ∧ Grown w w' ∧ w'.Made unit (unit.name, o) := by
  cases accepted with
  | strip named alone present given distinct counted =>
    refine ⟨(w.addDevice (.strip (.ofNames unit.outlets))).1,
      (w.addDevice (.strip (.ofNames unit.outlets))).2, ?_, ⟨?_, ?_, ?_⟩, rfl, ?_, ?_⟩
    · rw [addUnit, alone]
    · exact List.prefix_append ..
    · exact List.prefix_refl _
    · exact ⟨1, rfl⟩
    · exact .strip alone (List.getElem?_concat_length ..)
    · exact new_unseen w.plant.health
  | @relay relay endpoint named passed bare far address =>
    let client : PduClient := { endpoint, options := relay.options, name := relay.name }
    refine ⟨(w.addRelay client).1, (w.addRelay client).2, ?_, ⟨?_, ?_, ?_⟩, rfl, ?_, ?_⟩
    · rw [addUnit, passed]
      simp only [address]
      rfl
    · exact List.prefix_refl _
    · exact List.prefix_append ..
    · exact ⟨1, rfl⟩
    · refine .relay passed address ?_
      unfold pduClient?
      have last : (w.addRelay client).1.cells[w.cells.length]?
          = some { content := .pdu { client with home := some w.cells.length } } :=
        List.getElem?_concat_length ..
      rw [last]
      rfl
    · exact new_unseen w.plant.health

/-- Accepted units are made one by one, in their order. -/
theorem addUnits_made : ∀ (units : List PduSettings) (w : World), (∀ unit ∈ units, unit.Accepted) →
    ∃ w' objects, w.addUnits units = .ok (w', objects) ∧ Grown w w' ∧
      List.Forall₂ w'.Made units objects
  | [], w, _ => ⟨w, [], rfl, .same rfl rfl, .nil⟩
  | unit :: units, w, accepted => by
    obtain ⟨w₁, o, first, grown₁, made⟩ := w.addUnit_made (accepted unit (List.mem_cons_self ..))
    obtain ⟨w₂, objects, rest, grown₂, all⟩ := addUnits_made units w₁ fun later mem =>
      accepted later (List.mem_cons_of_mem _ mem)
    refine ⟨w₂, (unit.name, o) :: objects, ?_, grown₁.trans grown₂, .cons (made.grown grown₂) all⟩
    rw [addUnits, first]
    show (w₁.addUnits units >>= _) = _
    rw [rest]
    rfl

theorem Made.names (h : List.Forall₂ w.Made units objects) :
    objects.map Prod.fst = units.map PduSettings.name := by
  induction h with
  | nil => rfl
  | cons made _ ih => rw [List.map_cons, List.map_cons, made.name, ih]

end World

/-! ## What the node offers -/

/-- The node offers in this world what the settings describe, and nobody has asked it anything. -/
structure Node.Describes (node : Node) (settings : Settings) (w : World) : Prop where
  configured : node.settings = settings
  kind : node.kind = .pdu
  /-- The listing has the units in their order, counted from one, and none of them healthy. -/
  objects : (node.objects w.health).map (fun view => (view.index.toNat, view.name, view.healthy))
    = settings.pdus.mapIdx fun k unit => (k + 1, unit.name, false)
  notReady : node.isReady w.health = false
  /-- A name leads to its place, and there is what the unit describes. -/
  named : ∀ k unit, settings.pdus[k]? = some unit → ∃ index o, index.toNat = k + 1 ∧
    node.registry.indexOf unit.name = .ok index ∧ node.registry.object? index = some o ∧
    w.Stands unit o
  /-- A unit with outlets has them in their order and without power. -/
  strips : ∀ k unit, settings.pdus[k]? = some unit → unit.outlets ≠ [] → ∃ index o,
    index.toNat = k + 1 ∧ node.registry.object? index = some o ∧
    o.Starts w.plant unit.outlets ∧ node.registry.Starts w.plant index unit.outlets

namespace Node

variable {node : Node} {w : World} {units : List PduSettings}

/-- What was made for the unit at a place is what the registry has there. -/
theorem made_at {registry : Registry Object} (made : List.Forall₂ w.Made units registry.entries)
    {k : Nat} {unit : PduSettings} (here : units[k]? = some unit) :
    ∃ index o, index.toNat = k + 1 ∧ registry.At index unit.name o ∧ w.Made unit (unit.name, o) := by
  obtain ⟨inside, rfl⟩ := List.getElem?_eq_some_iff.mp here
  have within : k < registry.entries.length := made.length_eq ▸ inside
  have entry := made.get inside within
  have small : k + 1 < UInt16.size :=
    Nat.lt_of_le_of_lt (Nat.le_trans (Nat.succ_le_of_lt within) registry.length_le) (by decide)
  have number : (UInt16.ofNat (k + 1)).toNat = k + 1 := by
    rw [UInt16.toNat_ofNat']
    exact Nat.mod_eq_of_lt small
  have named : registry.entries[k] = (units[k].name, registry.entries[k].2) :=
    Prod.ext entry.name rfl
  refine ⟨UInt16.ofNat (k + 1), registry.entries[k].2, number, ⟨k, number, ?_⟩, ?_⟩
  · rw [List.getElem?_eq_getElem within, named]
  · rw [← named]
    exact entry

/-- The listing of what was just made. -/
theorem objects_made (made : List.Forall₂ w.Made units node.registry.entries) :
    (node.objects w.health).map (fun view => (view.index.toNat, view.name, view.healthy))
      = units.mapIdx fun k unit => (k + 1, unit.name, false) := by
  have count : units.length = node.registry.all.length := by
    rw [made.length_eq, Registry.entries, List.length_map]
  apply List.ext_getElem?
  intro k
  rw [objects, Registry.listing, List.map_map, List.map_map, List.getElem?_map,
    List.getElem?_mapIdx]
  by_cases inside : k < units.length
  · have within : k < node.registry.all.length := count ▸ inside
    have entry := made.get inside (made.length_eq ▸ inside)
    simp only [Registry.entries, List.get_eq_getElem, List.getElem_map] at entry
    rw [List.getElem?_eq_getElem within, List.getElem?_eq_getElem inside]
    have number := node.registry.numbered.index (List.getElem?_eq_getElem within)
    have name : node.registry.all[k].name = units[k].name := entry.name
    simp only [Option.map_some, Function.comp_apply, number, name, entry.unseen]
  · rw [List.getElem?_eq_none (Nat.not_lt.mp inside),
      List.getElem?_eq_none (count ▸ Nat.not_lt.mp inside)]
    rfl

theorem not_isReady {view : ObjectView} {health : MonitorId → Bool}
    (mem : view ∈ node.objects health) (unhealthy : view.healthy = false) :
    node.isReady health = false := by
  have some : (node.objects health).all (·.healthy) = false := by
    rw [List.all_eq_false]
    exact ⟨view, mem, by rw [unhealthy]; exact Bool.false_ne_true⟩
  rw [isReady, Offer.isReady, some, Bool.and_false]

end Node

namespace World

/-- **A validated configuration builds the service it describes**, whatever else the world has
already. -/
theorem boot_describes (w : World) {settings : Settings} (valid : settings.validate = .ok ())
    (few : settings.pdus.length ≤ 65535) :
    ∃ w' id node, w.boot settings = .ok (w', id) ∧ w'.nodes[id]? = some node ∧
      node.Describes settings w' := by
  obtain ⟨present, distinct, accepted⟩ := Settings.units_of_validate valid
  obtain ⟨w₁, objects, added, grown, made⟩ := w.addUnits_made settings.pdus accepted
  have nodup : (objects.map Prod.fst).Nodup := by rw [Made.names made]; exact distinct
  obtain ⟨registry, built, entries⟩ := Registry.build_of_nodup nodup (made.length_eq ▸ few)
  let node : Node := { settings, kind := .pdu, registry }
  let w₂ : World := { w₁ with nodes := w₁.nodes ++ [node] }
  have inRegistry : List.Forall₂ w₂.Made settings.pdus node.registry.entries := by
    rw [entries]
    exact made.imp fun _ _ h => h.grown (.same rfl rfl)
  have listing := Node.objects_made inRegistry
  refine ⟨w₂, w₁.nodes.length, node, ?_, List.getElem?_concat_length .., ?_⟩
  · rw [boot, added]
    show w₁.addNode settings .pdu objects = _
    rw [addNode, built]
    rfl
  · refine ⟨rfl, rfl, listing, ?_, ?_, ?_⟩
    · obtain ⟨first, rest, all⟩ := List.exists_cons_of_ne_nil present
      rw [all, List.mapIdx_cons] at listing
      obtain ⟨view, mem, same⟩ := List.mem_map.mp (listing ▸ List.mem_cons_self ..)
      exact Node.not_isReady mem (congrArg (·.2.2) same)
    · intro k unit here
      obtain ⟨index, o, number, there, entry⟩ := Node.made_at inRegistry here
      refine ⟨index, o, number, ?_, ?_, entry.stands⟩
      · rw [Registry.indexOf, Registry.index?_eq_some_iff.mpr ⟨o, there⟩]
      · exact Registry.object?_eq_some_iff.mpr ⟨_, there⟩
    · intro k unit here outlets
      obtain ⟨index, o, number, there, entry⟩ := Node.made_at inRegistry here
      have object := Registry.object?_eq_some_iff.mpr ⟨_, there⟩
      cases accepted unit (List.mem_of_getElem? here) with
      | relay _ _ bare => exact absurd bare outlets
      | strip _ alone _ _ distinct counted =>
        cases entry.stands with
        | relay passed => rw [alone] at passed; cases passed
        | strip _ device =>
          exact ⟨index, _, number, object, Object.starts device distinct counted,
            Registry.starts device distinct counted object⟩

/-- A node with a strip of two outlets and a relay to a unit of another node. -/
def twoUnits : Settings where
  pdus := [{ name := "east", outlets := ["mount", "camera"] },
    { name := "west", relay := some { address := "./far.sock", name := "dome" } }]

theorem boot_describes_twoUnits : twoUnits.validate = .ok () ∧
    ∃ w' id node, boot twoUnits {} = .ok (w', id) ∧ w'.nodes[id]? = some node ∧
      node.Describes twoUnits w' := by
  have valid : twoUnits.validate = .ok () := by decide
  exact ⟨valid, boot_describes {} valid (by decide)⟩

end World

end DeviceRpc
